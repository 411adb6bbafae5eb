import HadithService.Proofs.Text.Folding

/-!
# Texts read as words

A text is read from left to right: separators are passed over, and what comes before the next
separator or the end is a word.  There is one way to read a text, and `Text.words` gives the words
that are read (`Text.reads_iff`).
-/

namespace HadithService.Text

variable {α : Type} {isSeparator : α → Bool} {x : α} {w xs : List α} {ws : List (List α)}

/-- How a text is read as words, each as long as possible. -/
inductive Reads (isSeparator : α → Bool) : List α → List (List α) → Prop where
  | nothing : Reads isSeparator [] []
  | separator {x : α} {xs : List α} {ws : List (List α)} (hx : isSeparator x = true)
    (h : Reads isSeparator xs ws) : Reads isSeparator (x :: xs) ws
  | word {w xs : List α} {ws : List (List α)} (hne : w ≠ [])
    (hw : ∀ x ∈ w, isSeparator x = false) (hend : ∀ x ∈ xs.head?, isSeparator x = true)
    (h : Reads isSeparator xs ws) : Reads isSeparator (w ++ xs) (w :: ws)

theorem words_of_letters (hne : w ≠ []) (hw : ∀ x ∈ w, isSeparator x = false) :
  words isSeparator w = [w]
  := by
  rw [words, pieces_eq_splitOnP, List.splitOnP_eq_singleton hw]
  simpa using hne

theorem words_cons_separator (hx : isSeparator x = true) (xs : List α) :
  words isSeparator (x :: xs) = words isSeparator xs
  := words_append_cons hx [] xs

/-- A word ends where a separator follows, or nothing. -/
theorem words_append_of_end (hne : w ≠ []) (hw : ∀ x ∈ w, isSeparator x = false)
    (hend : ∀ x ∈ xs.head?, isSeparator x = true) :
  words isSeparator (w ++ xs) = w :: words isSeparator xs
  := by
  cases xs with
  | nil =>
    rw [List.append_nil, words_of_letters hne hw]
    rfl
  | cons x xs =>
    have hx : isSeparator x = true := hend x rfl
    rw [words_append_cons hx, words_of_letters hne hw, words_cons_separator hx]
    rfl

theorem Reads.words_eq (h : Reads isSeparator xs ws) :
  words isSeparator xs = ws
  := by
  induction h with
  | nothing => rfl
  | separator hx _ ih => rw [words_cons_separator hx, ih]
  | word hne hw hend _ ih => rw [words_append_of_end hne hw hend, ih]

/-- A letter in front is a word of its own before a separator, and part of the first word before
another letter. -/
theorem Reads.exists_cons (hx : isSeparator x = false) (h : Reads isSeparator xs ws) :
  ∃ ws', Reads isSeparator (x :: xs) ws'
  := by
  have hone : ∀ y ∈ [x], isSeparator y = false := by simpa using hx
  cases h with
  | nothing => use [[x]], .word (by simp) hone (by simp) .nothing
  | @separator y xs ws hy h =>
    have hend : ∀ z ∈ (y :: xs).head?, isSeparator z = true := by simpa using hy
    use [x] :: ws, .word (by simp) hone hend (.separator hy h)
  | @word w xs ws hne hw hend h =>
    have hmore : ∀ y ∈ x :: w, isSeparator y = false := by
      intro y hy
      rcases List.mem_cons.mp hy with rfl | hy
      · apply hx
      · apply hw y hy
    use (x :: w) :: ws, .word (by simp) hmore hend h

theorem exists_reads (xs : List α) :
  ∃ ws, Reads isSeparator xs ws
  := by
  induction xs with
  | nil => use [], .nothing
  | cons x xs ih =>
    obtain ⟨ws, h⟩ := ih
    cases hx : isSeparator x with
    | true => use ws, .separator hx h
    | false => apply h.exists_cons hx

/-- The words of a text are those that it is read as. -/
theorem reads_iff :
  Reads isSeparator xs ws ↔ words isSeparator xs = ws
  := by
  constructor
  · apply Reads.words_eq
  · rintro rfl
    obtain ⟨ws, h⟩ := exists_reads xs
    rw [h.words_eq]
    apply h

instance [DecidableEq α] (xs : List α) (ws : List (List α)) :
    Decidable (Reads isSeparator xs ws) :=
  decidable_of_iff (words isSeparator xs = ws) reads_iff.symm

end HadithService.Text
