import HadithService.Proofs.Collection
import HadithService.Proofs.Text.Words

/-!
# Collections named in texts

A text is taken for the name of a collection when the words of a name stand side by side among its
own, and the first such name in the table decides (`Collection.detect_whole_words`).  Diacritics do
not matter, and what is written in front of a text or behind it, with a space in between, takes
nothing away from its words.
-/

namespace HadithService.Collection

variable {s s' name slug : String} {i : Nat} {a : String × String} {ws : List (List Char)}

/-! ### Names among the words of a text -/

/-- A folded text is read as some words, with everything that is not alphanumeric between them. -/
def HasWords (s : String) (ws : List (List Char)) : Prop :=
  Text.Reads (fun c => !Text.isAlphanumeric c) (Text.foldChars s.toList) ws

theorem hasWords_iff :
  HasWords s ws ↔ wordsOf s = ws
  := Text.reads_iff

/-- The words of a name stand side by side among the words of a text. -/
def Mentions (s name : String) : Prop :=
  ∃ before named after, HasWords name named ∧ HasWords s (before ++ named ++ after)

theorem mentions_iff :
  Mentions s name ↔ wordsOf name <:+: wordsOf s
  := by
  constructor
  · rintro ⟨before, named, after, hnamed, hs⟩
    rw [hasWords_iff] at hnamed hs
    use before, after
    rw [hnamed, hs]
  · rintro ⟨before, after, hs⟩
    use before, wordsOf name, after, hasWords_iff.mpr rfl, hasWords_iff.mpr hs.symm

theorem Mentions.of_isInfix (h : Mentions s name) (hwords : wordsOf s <:+: wordsOf s') :
  Mentions s' name
  := mentions_iff.mpr ((mentions_iff.mp h).trans hwords)

/-- Every name of the table has a word. -/
theorem wordsOf_ne_nil_of_mem (ha : a ∈ aliases) :
  wordsOf a.1 ≠ []
  := by
  have hall : ∀ a ∈ aliases, wordsOf a.1 ≠ [] := by decide +kernel
  apply hall a ha

theorem named_iff_mentions (ha : a ∈ aliases) :
  (!(wordsOf a.1).isEmpty && Text.runsIn (wordsOf a.1) (wordsOf s)) = true ↔ Mentions s a.1
  := by
  rw [mentions_iff, Bool.and_eq_true, Text.runsIn_iff]
  apply and_iff_right
  simpa using wordsOf_ne_nil_of_mem ha

/-! ### The first name -/

/-- A name of the table, with its place, is the first that a text mentions. -/
structure IsFirstNamed (s : String) (i : Nat) (a : String × String) : Prop where
  at_place : aliases[i]? = some a
  mentioned : Mentions s a.1
  first : ∀ j b, j < i → aliases[j]? = some b → ¬ Mentions s b.1

theorem isSome_detect_iff :
  (detect s).isSome = true ↔ ∃ a ∈ aliases, Mentions s a.1
  := by
  rw [detect, Option.isSome_map, List.find?_isSome]
  apply exists_congr
  intro a
  apply and_congr_right
  apply named_iff_mentions

theorem detect_eq_some_iff :
  detect s = some slug ↔ ∃ i a, IsFirstNamed s i a ∧ a.2 = slug
  := by
  rw [detect, Option.map_eq_some_iff]
  constructor
  · rintro ⟨a, hfind, hslug⟩
    obtain ⟨hnamed, i, hi, hplace, hfirst⟩ := List.find?_eq_some_iff_getElem.mp hfind
    use i, a
    refine ⟨⟨List.getElem?_eq_some_iff.mpr ⟨hi, hplace⟩, ?_, ?_⟩, hslug⟩
    · apply (named_iff_mentions (List.mem_of_find?_eq_some hfind)).mp hnamed
    · intro j b hj hb hmentions
      obtain ⟨hlength, rfl⟩ := List.getElem?_eq_some_iff.mp hb
      have hnot := hfirst j hj
      rw [(named_iff_mentions (List.getElem_mem hlength)).mpr hmentions] at hnot
      cases hnot
  · rintro ⟨i, a, ha, hslug⟩
    obtain ⟨hi, hplace⟩ := List.getElem?_eq_some_iff.mp ha.at_place
    use a
    refine ⟨List.find?_eq_some_iff_getElem.mpr ⟨?_, i, hi, hplace, ?_⟩, hslug⟩
    · apply (named_iff_mentions (List.mem_of_getElem? ha.at_place)).mpr ha.mentioned
    · intro j hj
      rw [Bool.not_eq_true', Bool.eq_false_iff]
      intro hnamed
      have hlength : j < aliases.length := hj.trans hi
      apply ha.first j aliases[j] hj (List.getElem?_eq_getElem hlength)
      apply (named_iff_mentions (List.getElem_mem hlength)).mp hnamed

/-- When a text mentions a name of the table, the first one that it mentions is not further back. -/
theorem exists_isFirstNamed (ha : aliases[i]? = some a) (h : Mentions s a.1) :
  ∃ j b, j ≤ i ∧ IsFirstNamed s j b ∧ detect s = some b.2
  := by
  obtain ⟨slug, hslug⟩ := Option.isSome_iff_exists.mp
    (isSome_detect_iff.mpr ⟨a, List.mem_of_getElem? ha, h⟩)
  obtain ⟨j, b, hfirst, rfl⟩ := detect_eq_some_iff.mp hslug
  use j, b
  refine ⟨?_, hfirst, hslug⟩
  by_contra hlt
  apply hfirst.first i a (Nat.lt_of_not_le hlt) ha h

/-! ### Longer texts -/

/-- A text has the words of its two parts when a space stands between them. -/
theorem wordsOf_append_space (s s' : String) :
  wordsOf (s ++ " " ++ s') = wordsOf s ++ wordsOf s'
  := by
  have hblank : Text.isBlank ' ' = true := rfl
  have hchars : (s ++ " " ++ s').toList = s.toList ++ ' ' :: s'.toList := by simp
  have hstrip : Text.stripChars (s.toList ++ ' ' :: s'.toList)
      = Text.stripChars s.toList ++ ' ' :: Text.stripChars s'.toList := by
    rw [Text.stripChars_append]
    rfl
  rw [wordsOf, hchars, Text.foldChars, hstrip, Text.lowerChars,
    Text.lowerFrom_append_cons (Text.isNeutral_of_blank hblank), Text.words_append_cons rfl]
  rfl

/-- A collection is found in a text exactly when the words of one of its names stand side by side
among the words of the text, both folded and read between what is not alphanumeric; the first such
name of the table decides.  Diacritics that are put into the text do not change what is found.  In
a text to which something is added, with a space in between, a name is still found, and it is the
same or an earlier one of the table. -/
theorem detect_whole_words (query : String) :
  ((detect query).isSome = true ↔ ∃ a ∈ aliases, Mentions query a.1) ∧
    (∀ slug, detect query = some slug ↔ ∃ i a, IsFirstNamed query i a ∧ a.2 = slug) ∧
    (∀ query' : String, Text.Vocalized query.toList query'.toList →
      detect query' = detect query) ∧
    ∀ (text longer : String) (i : Nat) (a : String × String), IsFirstNamed query i a →
      longer = text ++ " " ++ query ∨ longer = query ++ " " ++ text →
        ∃ j b, j ≤ i ∧ IsFirstNamed longer j b ∧ detect longer = some b.2
  := by
  use isSome_detect_iff, fun _ => detect_eq_some_iff
  constructor
  · intro query' hvocalized
    apply detect_congr
    rw [wordsOf, wordsOf, Text.foldChars, Text.foldChars, hvocalized.stripChars_eq]
  · intro text longer i a hfirst hlonger
    apply exists_isFirstNamed hfirst.at_place
    apply hfirst.mentioned.of_isInfix
    rcases hlonger with rfl | rfl
    · rw [wordsOf_append_space]
      apply (List.suffix_append _ _).isInfix
    · rw [wordsOf_append_space]
      apply (List.prefix_append _ _).isInfix

/-- A vowel sign changes nothing, and behind another name one is found that is earlier in the
table. -/
theorem detect_whole_words_earlier :
  detect "مُسلم" = detect "مسلم" ∧
    ∃ i a j b, IsFirstNamed "مسلم" i a ∧ IsFirstNamed ("Bukhari or" ++ " " ++ "مسلم") j b ∧
      j ≤ i ∧ detect ("Bukhari or" ++ " " ++ "مسلم") = some b.2
  := by
  obtain ⟨-, hfirst, hsigns, hlonger⟩ := detect_whole_words "مسلم"
  have hplain : "مسلم".toList = ['م', 'س', 'ل', 'م'] := by decide +kernel
  have hsigned : "مُسلم".toList = ['م', '\u064f', 'س', 'ل', 'م'] := by decide +kernel
  have hvocalized : Text.Vocalized "مسلم".toList "مُسلم".toList := by
    rw [hplain, hsigned]
    exact .letter _ (.sign rfl (.letter _ (.letter _ (.letter _ .nothing))))
  obtain ⟨i, a, ha, -⟩ := (hfirst "ara-muslim").mp (by decide +kernel)
  obtain ⟨j, b, hj, hb, hdetect⟩ := hlonger "Bukhari or" _ i a ha (.inl rfl)
  use hsigns "مُسلم" hvocalized, i, a, j, b, ha, hb, hj, hdetect

end HadithService.Collection
