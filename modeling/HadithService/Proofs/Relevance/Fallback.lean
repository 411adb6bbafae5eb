import HadithService.Proofs.Relevance.Gate
import HadithService.Proofs.Text.Words

/-!
# Questions that no term decides

A question is relevant when it is not off the topic and asks for an explanation, or is put to a
religious text and either shares a word with it or is long (`Relevance.isRelevant_iff`).  Only words
of more than two characters are compared, and they alone are counted as well: a question of many
short words is not long (`Relevance.isRelevant_undecided`).  A text has no fewer words when
something is added to it, so a relevant question stays so (`Relevance.isRelevant_in_context`).
-/

namespace HadithService.Relevance

variable {question hadith : String} {asked told told' : List (List Char)} {cs cs' : List Char}

/-! ### What decides -/

/-- One of some terms stands in a text. -/
def Mentions (terms : List String) (cs : List Char) : Prop :=
  ∃ term ∈ terms, term.toList <:+: cs

instance (terms : List String) (cs : List Char) : Decidable (Mentions terms cs) :=
  decidable_of_iff (mentionsAny terms cs = true) mentionsAny_iff

/-- A word of a question is the same as one of a hadith, or stands in it, or the other way round.
Both have more than two characters, and the one of the hadith is not among the commonest words. -/
def SharesWord (asked told : List (List Char)) : Prop :=
  ∃ v ∈ asked, ∃ w ∈ told, 2 < v.length ∧ 2 < w.length ∧ String.ofList w ∉ stopWords ∧
    (v = w ∨ v <:+: w ∨ w <:+: v)

/-- The number of words that have more than two characters. -/
def countLong (words : List (List Char)) : Nat :=
  words.countP fun w => 2 < w.length

/-- A question shares a word with a hadith, or has three words of more than two characters. -/
def IsClose (asked told : List (List Char)) : Prop :=
  SharesWord asked told ∨ 3 ≤ countLong asked

/-- A question, in the form in which it is compared, is close to a religious text. -/
def IsNear (asked told : List Char) : Prop :=
  Mentions religiousTerms told ∧
    IsClose (Text.words isSeparator asked) (Text.words isSeparator told)

theorem isAkin_iff {v w : List Char} :
  isAkin v w = true ↔ v = w ∨ v <:+: w ∨ w <:+: v
  := by
  rw [isAkin, Bool.or_eq_true, Text.runsIn_iff, Text.runsIn_iff]
  constructor
  · apply Or.inr
  · rintro (rfl | h)
    · left
      apply List.infix_rfl
    · apply h

theorem isClose_iff :
  isClose cs cs' = true ↔ IsClose (Text.words isSeparator cs) (Text.words isSeparator cs')
  := by
  have hcount : (longWords cs).length = countLong (Text.words isSeparator cs) :=
    List.countP_eq_length_filter.symm
  rw [isClose, Bool.or_eq_true, decide_eq_true_iff, hcount, IsClose]
  apply or_congr_left
  simp only [SharesWord, longWords, List.any_eq_true, List.mem_filter, decide_eq_true_iff,
    isAkin_iff, Bool.not_eq_true', List.contains_eq_mem, decide_eq_false_iff_not, wordLength,
    Nat.succ_le_iff]
  constructor
  · rintro ⟨v, ⟨hv, hlong⟩, w, ⟨⟨hw, hlong'⟩, hcommon⟩, hakin⟩
    use v, hv, w, hw, hlong, hlong', hcommon, hakin
  · rintro ⟨v, hv, w, hw, hlong, hlong', hcommon, hakin⟩
    use v, ⟨hv, hlong⟩, w, ⟨⟨hw, hlong'⟩, hcommon⟩, hakin

/-- The stages of the gate, for texts in the form in which they are compared. -/
theorem isRelevant_iff :
  isRelevant question hadith = true ↔
    ¬ IsOffTopic (questionForm question) ∧
      (Mentions allowedTerms (questionForm question) ∨
        IsNear (questionForm question) (Text.lowerChars hadith.toList))
  := by
  rw [← isDenied_iff, IsNear, Mentions, Mentions, ← mentionsAny_iff, ← mentionsAny_iff,
    ← isClose_iff, Bool.not_eq_true, ← Bool.and_eq_true, ← Bool.or_eq_true]
  simp only [isRelevant]
  split
  case isTrue hdenied => simp [hdenied]
  case isFalse hdenied =>
    split
    case isTrue hasks => simp [hdenied, hasks]
    case isFalse hasks => simp [hdenied, hasks]

/-- A question that is not off the topic and does not ask for an explanation is relevant to a
religious text exactly when it shares a word with the text or has three words of more than two
characters.  Were its words counted whatever their length, the same would hold except when it
shares no word and has three words at least, of which fewer than three have more than two
characters. -/
theorem isRelevant_undecided
    (hasked : Text.Reads isSeparator (Text.lowercase (Text.trim question)).toList asked)
    (htold : Text.Reads isSeparator (Text.lowercase hadith).toList told)
    (hkind : ¬ IsOffTopic (Text.lowercase (Text.trim question)).toList)
    (hasks : ¬ Mentions allowedTerms (Text.lowercase (Text.trim question)).toList)
    (hreligious : Mentions religiousTerms (Text.lowercase hadith).toList) :
  (isRelevant question hadith = true ↔ SharesWord asked told ∨ 3 ≤ countLong asked) ∧
    ((isRelevant question hadith = true ↔ SharesWord asked told ∨ 3 ≤ asked.length) ↔
      SharesWord asked told ∨ asked.length < 3 ∨ 3 ≤ countLong asked)
  := by
  rw [← questionForm_eq] at hasked hkind hasks
  rw [Text.toList_lowercase] at htold hreligious
  have hclose :
      isRelevant question hadith = true ↔ SharesWord asked told ∨ 3 ≤ countLong asked := by
    rw [isRelevant_iff, IsNear, hasked.words_eq, htold.words_eq, IsClose]
    simp only [hkind, hasks, hreligious, not_false_eq_true, true_and, false_or]
  use hclose
  have hle : countLong asked ≤ asked.length := List.countP_le_length
  rw [hclose]
  constructor
  · intro hcounted
    by_contra hnot
    rw [not_or, not_or, Nat.not_lt] at hnot
    rcases hcounted.mpr (.inr hnot.2.1) with hshares | hlong
    · apply hnot.1 hshares
    · apply hnot.2.2 hlong
  · rintro (hshares | hshort | hlong)
    · simp only [hshares, true_or]
    · apply or_congr_right
      omega
    · apply or_congr_right
      omega

/-- A word of the question stands in one of the hadith, of which it is a part. -/
theorem isRelevant_undecided_part :
  let asked := (Text.lowercase (Text.trim " is it Prayer")).toList
  let told := (Text.lowercase "حديث (prayers)").toList
  Text.Reads isSeparator asked ["is".toList, "it".toList, "prayer".toList] ∧
    Text.Reads isSeparator told ["حديث".toList, "prayers".toList] ∧
    ¬ IsOffTopic asked ∧ ¬ Mentions allowedTerms asked ∧ Mentions religiousTerms told ∧
    isRelevant " is it Prayer" "حديث (prayers)" = true
  := by
  intro asked told
  have hasked : Text.Reads isSeparator asked ["is".toList, "it".toList, "prayer".toList] := by
    decide +kernel
  have htold : Text.Reads isSeparator told ["حديث".toList, "prayers".toList] := by decide +kernel
  have hkind : ¬ IsOffTopic asked := by decide +kernel
  have hasks : ¬ Mentions allowedTerms asked := by decide +kernel
  have hreligious : Mentions religiousTerms told := by decide +kernel
  use hasked, htold, hkind, hasks, hreligious
  apply (isRelevant_undecided hasked htold hkind hasks hreligious).1.mpr
  left
  use "prayer".toList, by decide +kernel, "prayers".toList, by decide +kernel, by decide +kernel,
    by decide +kernel, by decide +kernel
  right; left
  use [], ['s']
  decide +kernel

/-- A question of three words is not relevant to a religious text if they are short. -/
theorem not_isRelevant_of_short_words :
  let asked := (Text.lowercase (Text.trim "is it so")).toList
  Text.Reads isSeparator asked ["is".toList, "it".toList, "so".toList] ∧
    ¬ IsOffTopic asked ∧ ¬ Mentions allowedTerms asked ∧
    Mentions religiousTerms (Text.lowercase "حديث").toList ∧
    isRelevant "is it so" "حديث" = false
  := by
  decide +kernel

/-! ### Longer texts -/

/-- A text is lowered in two parts when a space stands between them. -/
theorem lowerChars_append_space (cs cs' : List Char) :
  Text.lowerChars (cs ++ ' ' :: cs') = Text.lowerChars cs ++ ' ' :: Text.lowerChars cs'
  := Text.lowerFrom_append_cons (Text.isNeutral_of_blank rfl) cs cs'

theorem Mentions.of_isInfix {terms : List String} (h : Mentions terms cs) (hin : cs <:+: cs') :
  Mentions terms cs'
  := by
  obtain ⟨term, hterm, hpart⟩ := h
  exact ⟨term, hterm, hpart.trans hin⟩

/-- A question that is close to some words is close to more of them. -/
theorem IsClose.of_subset (h : IsClose asked told) (hsubset : told ⊆ told') :
  IsClose asked told'
  := by
  apply h.imp_left
  rintro ⟨v, hv, w, hw, hakin⟩
  exact ⟨v, hv, w, hsubset hw, hakin⟩

/-- A question that is relevant to a hadith is relevant to a longer text in which the hadith stands
with a space before and after it. -/
theorem isRelevant_in_context (h : isRelevant question hadith = true) (before after : String) :
  isRelevant question (before ++ " " ++ hadith ++ " " ++ after) = true
  := by
  have hchars : (before ++ " " ++ hadith ++ " " ++ after).toList
      = before.toList ++ ' ' :: (hadith.toList ++ ' ' :: after.toList) := by simp
  obtain ⟨hkind, hstage⟩ := isRelevant_iff.mp h
  rw [isRelevant_iff, hchars, lowerChars_append_space, lowerChars_append_space]
  use hkind
  apply hstage.imp_right
  rintro ⟨hreligious, hclose⟩
  constructor
  · apply hreligious.of_isInfix
    use Text.lowerChars before.toList ++ [' '], ' ' :: Text.lowerChars after.toList
    simp
  · have hspace : isSeparator ' ' = true := rfl
    rw [Text.words_append_cons hspace, Text.words_append_cons hspace]
    apply hclose.of_subset
    intro w hw
    apply List.mem_append_right _ (List.mem_append_left _ hw)

/-- A final sigma is still one when another word follows. -/
theorem isRelevant_in_context_sigma :
  isRelevant "ΟΔΟΣ" "حديث ΟΔΟΣ" = true ∧
    isRelevant "ΟΔΟΣ" ("ΑΣ" ++ " " ++ "حديث ΟΔΟΣ" ++ " " ++ "ΑΒΓ") = true
  := by
  have hrelevant : isRelevant "ΟΔΟΣ" "حديث ΟΔΟΣ" = true := by decide +kernel
  exact ⟨hrelevant, isRelevant_in_context hrelevant "ΑΣ" "ΑΒΓ"⟩

end HadithService.Relevance
