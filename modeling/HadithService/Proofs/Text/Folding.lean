import HadithService.Proofs.Text.Blank
import HadithService.Proofs.Text.Characters
import HadithService.Text.Words
import Mathlib.Data.List.Infix

/-!
# Folded texts and their words

A character that stands in no word, such as a blank, splits a text into two parts of which each is
lowered as if it stood alone (`Text.lowerFrom_append_cons`); the same holds of the words of a text
(`Text.words_append_cons`).  Blanks around a text therefore stay as they are when it is folded, and
add no words to it.
-/

namespace HadithService.Text

variable {before after cs : List Char} {cased : Bool} {c : Char}

/-! ### Lower case -/

theorem toList_lowercase (s : String) :
  (lowercase s).toList = lowerChars s.toList
  := String.toList_ofList

/-- A character that has no case, and that is not looked past for the case of its neighbours. -/
structure IsNeutral (c : Char) : Prop where
  lowerChar : lowerChar c = [c]
  ne_sigma : c ≠ 'Σ'
  isCased : isCased c = false
  isCaseIgnorable : isCaseIgnorable c = false

theorem isNeutral_of_blank (hc : isBlank c = true) :
  IsNeutral c
  where
    lowerChar := lowerChar_of_blank hc
    ne_sigma := ne_sigma_of_blank hc
    isCased := isCased_of_blank hc
    isCaseIgnorable := isCaseIgnorable_of_blank hc

theorem isNeutral_of_all_blank (hblank : before.all isBlank) :
  ∀ c ∈ before, IsNeutral c
  := fun _ hc => isNeutral_of_blank (List.all_eq_true.mp hblank _ hc)

theorem casedNext_append_cons (hc : IsNeutral c) (cs rest : List Char) :
  casedNext (cs ++ c :: rest) = casedNext cs
  := by
  rw [casedNext, casedNext, List.dropWhile_append]
  cases cs.dropWhile isCaseIgnorable with
  | nil => simp [hc.isCaseIgnorable, hc.isCased]
  | cons d ds => rfl

theorem lowerFrom_cons_of_lowerChar_eq (hc : lowerChar c = [c]) (hsigma : c ≠ 'Σ')
    (cs : List Char) :
  lowerFrom cased (c :: cs)
    = c :: lowerFrom (if isCaseIgnorable c then cased else isCased c) cs
  := by
  simp [lowerFrom, hsigma, hc]

/-- The letters before a neutral character and those after it are lowered apart. -/
theorem lowerFrom_append_cons (hc : IsNeutral c) (cs rest : List Char) :
  lowerFrom cased (cs ++ c :: rest) = lowerFrom cased cs ++ c :: lowerFrom false rest
  := by
  induction cs generalizing cased with
  | nil =>
    rw [List.nil_append, lowerFrom_cons_of_lowerChar_eq hc.lowerChar hc.ne_sigma,
      hc.isCaseIgnorable, hc.isCased]
    rfl
  | cons d cs ih =>
    simp only [List.cons_append, lowerFrom]
    rw [casedNext_append_cons hc, ih, List.append_assoc]

theorem lowerFrom_append (hafter : ∀ c ∈ after, IsNeutral c) (cs : List Char) :
  lowerFrom cased (cs ++ after) = lowerFrom cased cs ++ after
  := by
  induction after generalizing cs cased with
  | nil => simp
  | cons c after ih =>
    have hrest : lowerFrom false ([] ++ after) = [] ++ after :=
      ih (fun d hd => hafter d (List.mem_cons_of_mem c hd)) []
    rw [List.nil_append] at hrest
    rw [lowerFrom_append_cons (hafter c List.mem_cons_self), hrest]

/-- Neutral characters around a text stay as they are when it is lowered. -/
theorem lowerChars_surrounded (hbefore : ∀ c ∈ before, IsNeutral c)
    (hafter : ∀ c ∈ after, IsNeutral c) (cs : List Char) :
  lowerChars (before ++ cs ++ after) = before ++ lowerChars cs ++ after
  := by
  rw [lowerChars, lowerFrom_append hafter]
  congr 1
  induction before with
  | nil => rfl
  | cons c before ih =>
    have hc := hbefore c List.mem_cons_self
    have hrest := ih fun d hd => hbefore d (List.mem_cons_of_mem c hd)
    have hsplit : lowerFrom false ([] ++ c :: (before ++ cs))
        = [] ++ c :: lowerFrom false (before ++ cs) :=
      lowerFrom_append_cons hc [] (before ++ cs)
    rw [hrest] at hsplit
    apply hsplit

/-- A character that is its own lower-case form stays in a text when it is lowered. -/
theorem mem_lowerFrom (hc : lowerChar c = [c]) (hsigma : c ≠ 'Σ') (hmem : c ∈ cs) :
  c ∈ lowerFrom cased cs
  := by
  induction cs generalizing cased with
  | nil => cases hmem
  | cons d cs ih =>
    rcases List.mem_cons.mp hmem with rfl | hmem
    · rw [lowerFrom_cons_of_lowerChar_eq hc hsigma]
      apply List.mem_cons_self
    · apply List.mem_append_right _ (ih hmem)

/-! ### Folding -/

theorem toList_stripDiacritics (s : String) :
  (stripDiacritics s).toList = stripChars s.toList
  := String.toList_ofList

theorem stripChars_append (cs cs' : List Char) :
  stripChars (cs ++ cs') = stripChars cs ++ stripChars cs'
  := List.filter_append cs cs'

theorem stripChars_of_blank (hblank : before.all isBlank) :
  stripChars before = before
  := by
  rw [stripChars, List.filter_eq_self]
  intro c hc
  rw [isDiacritic_of_blank (List.all_eq_true.mp hblank c hc)]
  rfl

/-- A text and the same with diacritics put in anywhere. -/
inductive Vocalized : List Char → List Char → Prop where
  | nothing : Vocalized [] []
  | letter (c : Char) {cs cs' : List Char} (h : Vocalized cs cs') : Vocalized (c :: cs) (c :: cs')
  | sign {d : Char} (hd : isDiacritic d = true) {cs cs' : List Char} (h : Vocalized cs cs') :
    Vocalized cs (d :: cs')

theorem Vocalized.stripChars_eq {cs' : List Char} (h : Vocalized cs cs') :
  stripChars cs' = stripChars cs
  := by
  induction h with
  | nothing => rfl
  | letter c _ ih => rw [stripChars, stripChars, List.filter_cons, List.filter_cons,
      ← stripChars, ← stripChars, ih]
  | sign hd _ ih => rw [stripChars, List.filter_cons_of_neg (by simp [hd]), ← stripChars, ih]

/-- Blanks around a text are still around it when its diacritics are removed. -/
theorem stripChars_surrounded (hbefore : before.all isBlank) (hafter : after.all isBlank)
    (cs : List Char) :
  stripChars (before ++ cs ++ after) = before ++ stripChars cs ++ after
  := by
  rw [stripChars_append, stripChars_append, stripChars_of_blank hbefore, stripChars_of_blank hafter]

theorem trimChars_stripChars_trimChars (cs : List Char) :
  trimChars (stripChars (trimChars cs)) = trimChars (stripChars cs)
  := by
  obtain ⟨before, after, hcs, hbefore, hafter⟩ := exists_trimChars cs
  have hsame := trimChars_surrounded hbefore hafter (stripChars (trimChars cs))
  rw [← stripChars_surrounded hbefore hafter, ← hcs] at hsame
  apply hsame.symm

/-- A folded text is the folded form of what is left when it is stripped and trimmed, with the
blanks that were around that. -/
theorem exists_foldChars (cs : List Char) :
  ∃ before after, foldChars cs = before ++ lowerChars (trimChars (stripChars cs)) ++ after ∧
    before.all isBlank ∧ after.all isBlank
  := by
  obtain ⟨before, after, hcs, hbefore, hafter⟩ := exists_trimChars (stripChars cs)
  use before, after
  constructor
  · rw [← lowerChars_surrounded (isNeutral_of_all_blank hbefore) (isNeutral_of_all_blank hafter),
      ← hcs]
    rfl
  · use hbefore

/-! ### Words -/

section Words

variable {α : Type} {isSeparator : α → Bool} {x : α} {xs : List α}

theorem pieces_eq_splitOnP (xs : List α) :
  pieces isSeparator xs = xs.splitOnP isSeparator
  := by
  induction xs with
  | nil => rfl
  | cons x xs ih =>
    obtain ⟨piece, others, hxs⟩ := List.exists_cons_of_ne_nil (List.splitOnP_ne_nil isSeparator xs)
    rw [List.splitOnP_cons_eq_if_modifyHead, pieces, ih, hxs]
    rfl

/-- The words of a text are those before a separator and those after it. -/
theorem words_append_cons (hx : isSeparator x = true) (xs rest : List α) :
  words isSeparator (xs ++ x :: rest) = words isSeparator xs ++ words isSeparator rest
  := by
  rw [words, words, words, pieces_eq_splitOnP, List.splitOnP_append_cons xs rest hx,
    List.filter_append, ← pieces_eq_splitOnP, ← pieces_eq_splitOnP]

theorem words_separators_append {separators : List α} (h : separators.all isSeparator)
    (xs : List α) :
  words isSeparator (separators ++ xs) = words isSeparator xs
  := by
  induction separators with
  | nil => rfl
  | cons x separators ih =>
    rw [List.all_cons, Bool.and_eq_true] at h
    have hsplit := words_append_cons h.1 [] (separators ++ xs)
    rw [ih h.2] at hsplit
    apply hsplit

theorem words_append_separators {separators : List α} (h : separators.all isSeparator)
    (xs : List α) :
  words isSeparator (xs ++ separators) = words isSeparator xs
  := by
  cases separators with
  | nil => rw [List.append_nil]
  | cons x separators =>
    rw [List.all_cons, Bool.and_eq_true] at h
    have hnone := words_separators_append h.2 []
    rw [List.append_nil] at hnone
    rw [words_append_cons h.1, hnone]
    apply List.append_nil

end Words

/-! ### Occurrences -/

theorem runsIn_iff {α : Type} [BEq α] [LawfulBEq α] {part xs : List α} :
  runsIn part xs = true ↔ part <:+: xs
  := by
  induction xs with
  | nil => simp [runsIn]
  | cons x xs ih =>
    rw [runsIn, Bool.or_eq_true, List.isPrefixOf_iff_prefix, ih, List.infix_cons_iff]

theorem occursIn_iff {part whole : String} :
  occursIn part whole = true ↔ part.toList <:+: whole.toList
  := runsIn_iff

end HadithService.Text
