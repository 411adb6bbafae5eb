import HadithService.Collection
import HadithService.Proofs.Text.Folding

/-!
# Names of collections in texts

The words of a text depend only on what is left of it when it is stripped of its diacritics and
trimmed (`Collection.wordsOf_congr`).  A text that names a collection as a whole has the words of
the name, so the collection is also found in it (`Collection.detect_eq_of_lookup`).
-/

namespace HadithService.Collection

variable {s s' slug : String}

/-! ### Words of texts -/

theorem wordsOf_eq (s : String) :
  wordsOf s
    = Text.words (fun c => !Text.isAlphanumeric c)
        (Text.lowerChars (Text.trimChars (Text.stripChars s.toList)))
  := by
  obtain ⟨before, after, hfold, hbefore, hafter⟩ := Text.exists_foldChars s.toList
  have hseparators : ∀ blanks : List Char, blanks.all Text.isBlank →
      blanks.all fun c => !Text.isAlphanumeric c := by
    intro blanks hblanks
    apply List.all_eq_true.mpr
    intro c hc
    rw [Text.isAlphanumeric_of_blank (List.all_eq_true.mp hblanks c hc)]
    rfl
  rw [wordsOf, hfold, Text.words_append_separators (hseparators after hafter),
    Text.words_separators_append (hseparators before hbefore)]

/-- Texts that are the same without diacritics and the blanks around them have the same words. -/
theorem wordsOf_congr
    (h : Text.trim (Text.stripDiacritics s) = Text.trim (Text.stripDiacritics s')) :
  wordsOf s = wordsOf s'
  := by
  rw [Text.trim_eq_iff, Text.toList_stripDiacritics, Text.toList_stripDiacritics] at h
  rw [wordsOf_eq, wordsOf_eq, h]

theorem detect_congr (h : wordsOf s = wordsOf s') :
  detect s = detect s'
  := by
  rw [detect, detect, h]

@[simp]
theorem detect_trim (s : String) :
  detect (Text.trim s) = detect s
  := by
  apply detect_congr
  rw [wordsOf_eq, wordsOf_eq, Text.trim, String.toList_ofList, Text.trimChars_stripChars_trimChars]

theorem detect_eq_none_of_blank (h : Text.isBlankText s = true) :
  detect s = none
  := by
  have htrim : Text.trim s = "" := Text.isBlankText_iff.mp h
  rw [← detect_trim, htrim]
  decide +kernel

/-! ### Names -/

@[simp]
theorem lookup_trim (s : String) :
  lookup (Text.trim s) = lookup s
  := by
  rw [lookup, lookup, Text.trim_trim]

theorem exists_of_lookup (h : lookup s = some slug) :
  ∃ a ∈ aliases, a.1 = Text.lowercase (Text.trim s) ∧ a.2 = slug
  := by
  obtain ⟨a, ha, hslug⟩ := Option.map_eq_some_iff.mp h
  have hname := List.find?_some ha
  rw [beq_iff_eq] at hname
  use a, List.mem_of_find?_eq_some ha

theorem resolve_trim_of_lookup (h : lookup s = some slug) :
  resolve (Text.trim s) = slug
  := by
  rw [resolve, lookup_trim, h]
  rfl

theorem not_isBlankText_of_lookup (h : lookup s = some slug) :
  Text.isBlankText s = false
  := by
  rw [Bool.eq_false_iff]
  intro hblank
  have hnone : lookup "" = none := by decide +kernel
  rw [← lookup_trim, Text.isBlankText_iff.mp hblank, hnone] at h
  cases h

/-- Nothing in the table of names changes when it is folded. -/
theorem foldChars_of_mem {a : String × String} (ha : a ∈ aliases) :
  Text.foldChars a.1.toList = a.1.toList
  := by
  have hall : ∀ a ∈ aliases, Text.foldChars a.1.toList = a.1.toList := by decide +kernel
  apply hall a ha

/-- In every name of the table its own collection is found, whichever names are contained in it. -/
theorem detect_of_mem {a : String × String} (ha : a ∈ aliases) :
  detect a.1 = some a.2
  := by
  have hall : ∀ a ∈ aliases, detect a.1 = some a.2 := by decide +kernel
  apply hall a ha

/-- A text that is lowered to a name of the table has no diacritics, since these stay when it is
lowered and no name has any. -/
theorem stripChars_of_lowered {cs : List Char} {a : String × String} (ha : a ∈ aliases)
    (hlower : Text.lowerChars cs = a.1.toList) :
  Text.stripChars cs = cs
  := by
  rw [Text.stripChars, List.filter_eq_self]
  intro c hc
  by_contra hdiacritic
  have hd : Text.isDiacritic c = true := by simpa using hdiacritic
  have hmem : c ∈ a.1.toList := by
    rw [← hlower]
    apply Text.mem_lowerFrom (Text.lowerChar_of_diacritic hd) (Text.ne_sigma_of_diacritic hd) hc
  have hnone : ∀ a ∈ aliases, a.1.toList.any Text.isDiacritic = false := by decide +kernel
  apply List.any_eq_false.mp (hnone a ha) c hmem hd

/-- A collection that a text names as a whole is found in the text. -/
theorem detect_eq_of_lookup (h : lookup s = some slug) :
  detect s = some slug
  := by
  obtain ⟨a, ha, hname, rfl⟩ := exists_of_lookup h
  have hlower : Text.lowerChars (Text.trimChars s.toList) = a.1.toList := by
    rw [hname, Text.toList_lowercase, Text.trim, String.toList_ofList]
  have hwords : wordsOf (Text.trim s) = wordsOf a.1 := by
    rw [wordsOf, wordsOf, foldChars_of_mem ha, ← hlower, Text.foldChars, Text.trim,
      String.toList_ofList, stripChars_of_lowered ha hlower]
  rw [← detect_trim, detect_congr hwords, detect_of_mem ha]

end HadithService.Collection
