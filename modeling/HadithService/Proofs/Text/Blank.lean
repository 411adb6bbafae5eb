import HadithService.Text.Sanitize
import Mathlib.Data.List.TakeWhile
import Mathlib.Tactic.Use

/-!
# Trimmed texts

A text is what is left of it when it is trimmed, between two runs of blanks
(`Text.exists_trimChars`), and blanks around a text do not matter to what is left
(`Text.trimChars_surrounded`).  Texts without blanks at either end are those that trimming does not
change (`Text.isTrimmed_iff`), and what is left of a text is one of them (`Text.trimsTo_iff`).
-/

namespace HadithService.Text

variable {before after : List Char}

/-! ### What trimming removes -/

theorem exists_trimStart (cs : List Char) :
  ∃ blanks, cs = blanks ++ trimStart cs ∧ blanks.all isBlank
  := ⟨cs.takeWhile isBlank, List.takeWhile_append_dropWhile.symm, List.all_takeWhile⟩

theorem exists_trimEnd (cs : List Char) :
  ∃ blanks, cs = trimEnd cs ++ blanks ∧ blanks.all isBlank
  := by
  obtain ⟨blanks, hcs, hblanks⟩ := exists_trimStart cs.reverse
  use blanks.reverse
  constructor
  · rw [trimEnd, ← List.reverse_append, ← hcs, List.reverse_reverse]
  · rw [List.all_reverse]
    apply hblanks

theorem exists_trimChars (cs : List Char) :
  ∃ before after, cs = before ++ trimChars cs ++ after ∧ before.all isBlank ∧ after.all isBlank
  := by
  obtain ⟨before, hstart, hbefore⟩ := exists_trimStart cs
  obtain ⟨after, hend, hafter⟩ := exists_trimEnd (trimStart cs)
  use before, after
  rw [List.append_assoc, trimChars, ← hend]
  exact ⟨hstart, hbefore, hafter⟩

/-! ### Blanks around a text -/

theorem trimStart_append (hbefore : before.all isBlank) (cs : List Char) :
  trimStart (before ++ cs) = trimStart cs
  := List.dropWhile_append_of_pos (List.all_eq_true.mp hbefore)

theorem trimStart_of_blank (hbefore : before.all isBlank) :
  trimStart before = []
  := by
  rw [← List.append_nil before, trimStart_append hbefore]
  rfl

theorem trimEnd_append (hafter : after.all isBlank) (cs : List Char) :
  trimEnd (cs ++ after) = trimEnd cs
  := by
  rw [← List.all_reverse] at hafter
  rw [trimEnd, List.reverse_append, trimStart_append hafter, trimEnd]

/-- Blanks around a text are trimmed with those in it. -/
theorem trimChars_surrounded (hbefore : before.all isBlank) (hafter : after.all isBlank)
    (cs : List Char) :
  trimChars (before ++ cs ++ after) = trimChars cs
  := by
  rw [List.append_assoc, trimChars, trimStart_append hbefore, trimChars]
  by_cases hempty : trimStart cs = []
  · obtain ⟨blanks, hcs, hblanks⟩ := exists_trimStart cs
    rw [hempty, List.append_nil] at hcs
    rw [hempty, hcs, trimStart_append hblanks, trimStart_of_blank hafter]
  · have hstart : trimStart (cs ++ after) = trimStart cs ++ after := by
      rw [trimStart, List.dropWhile_append, if_neg]
      · rfl
      · rw [List.isEmpty_iff]
        apply hempty
    rw [hstart, trimEnd_append hafter]

/-- Characters that are not blank are not trimmed. -/
theorem length_le_trimChars (before : List Char) (hafter : ∀ c ∈ after, isBlank c = false) :
  after.length ≤ (trimChars (before ++ after)).length
  := by
  obtain ⟨left, right, heq, hleft, hright⟩ := exists_trimChars (before ++ after)
  have hcount := congrArg (List.countP fun c => !isBlank c) heq
  have hnone : ∀ blanks : List Char, blanks.all isBlank →
      blanks.countP (fun c => !isBlank c) = 0 := by
    intro blanks hblanks
    rw [List.countP_eq_zero]
    intro c hc
    rw [List.all_eq_true.mp hblanks c hc]
    decide
  have hall : after.countP (fun c => !isBlank c) = after.length := by
    rw [List.countP_eq_length]
    intro c hc
    rw [hafter c hc]
    rfl
  have hle : (trimChars (before ++ after)).countP (fun c => !isBlank c)
      ≤ (trimChars (before ++ after)).length := List.countP_le_length
  simp only [List.countP_append, hnone left hleft, hnone right hright, hall] at hcount
  omega

@[simp]
theorem trimChars_trimChars (cs : List Char) :
  trimChars (trimChars cs) = trimChars cs
  := by
  obtain ⟨before, after, hcs, hbefore, hafter⟩ := exists_trimChars cs
  have hsame := trimChars_surrounded hbefore hafter (trimChars cs)
  rw [← hcs] at hsame
  apply hsame.symm

@[simp]
theorem trim_trim (s : String) :
  trim (trim s) = trim s
  := by
  rw [trim, trim, String.toList_ofList, trimChars_trimChars]

/-! ### Trimmed texts -/

theorem trimStart_eq_self_iff {cs : List Char} :
  trimStart cs = cs ↔ ∀ c ∈ cs.head?, isBlank c = false
  := by
  cases cs with
  | nil => simp [trimStart]
  | cons c cs => simp [trimStart, List.dropWhile_eq_self_iff]

theorem trimEnd_eq_self_iff {cs : List Char} :
  trimEnd cs = cs ↔ ∀ c ∈ cs.getLast?, isBlank c = false
  := by
  rw [trimEnd, List.reverse_eq_iff, trimStart_eq_self_iff, List.head?_reverse]

theorem trimChars_isInfix (cs : List Char) :
  trimChars cs <:+: cs
  := by
  obtain ⟨before, after, hcs, -, -⟩ := exists_trimChars cs
  use before, after, hcs.symm

theorem isTrimmed_iff {cs : List Char} :
  IsTrimmed cs ↔ trimChars cs = cs
  := by
  rw [IsTrimmed, ← trimStart_eq_self_iff, ← trimEnd_eq_self_iff]
  constructor
  · rintro ⟨hstart, hend⟩
    rw [trimChars, hstart, hend]
  · intro hsame
    have hstart : trimStart cs = cs := by
      apply (List.dropWhile_suffix isBlank).eq_of_length_le
      obtain ⟨blanks, hend, -⟩ := exists_trimEnd (trimStart cs)
      rw [← trimChars, hsame] at hend
      have hlength := congrArg List.length hend
      rw [List.length_append] at hlength
      rw [← trimStart]
      omega
    rw [trimChars, hstart] at hsame
    use hstart, hsame

theorem isTrimmed_trimChars (cs : List Char) :
  IsTrimmed (trimChars cs)
  := isTrimmed_iff.mpr (trimChars_trimChars cs)

theorem trimsTo_iff {cs core : List Char} :
  TrimsTo cs core ↔ trimChars cs = core
  := by
  constructor
  · rintro ⟨before, after, rfl, hbefore, hafter, htrimmed⟩
    rw [trimChars_surrounded hbefore hafter, isTrimmed_iff.mp htrimmed]
  · rintro rfl
    obtain ⟨before, after, hcs, hbefore, hafter⟩ := exists_trimChars cs
    use before, after, hcs, hbefore, hafter
    apply isTrimmed_trimChars

theorem TrimsTo.isTrimmed {cs core : List Char} (h : TrimsTo cs core) :
  IsTrimmed core
  := by
  obtain ⟨-, -, -, -, -, htrimmed⟩ := h
  apply htrimmed

/-- The end of a trimmed text has no blanks at its end. -/
theorem IsTrimmed.trimEnd_right {start rest : List Char} (h : IsTrimmed (start ++ rest)) :
  trimEnd rest = rest
  := by
  apply trimEnd_eq_self_iff.mpr
  intro c hc
  apply h.2 c
  rw [List.getLast?_append, Option.mem_def.mp hc]
  rfl

theorem trim_eq_iff {s s' : String} :
  trim s = trim s' ↔ trimChars s.toList = trimChars s'.toList
  := String.ofList_inj

/-- A text is blank when nothing is left of it. -/
theorem isBlankText_iff {s : String} :
  isBlankText s = true ↔ trim s = ""
  := by
  rw [isBlankText, trim, String.ofList_eq_empty_iff]
  constructor
  · intro hblank
    rw [trimChars, trimStart_of_blank hblank]
    rfl
  · intro hempty
    obtain ⟨before, after, hs, hbefore, hafter⟩ := exists_trimChars s.toList
    rw [hs, hempty, List.all_append, List.all_append, hbefore, hafter]
    rfl

end HadithService.Text
