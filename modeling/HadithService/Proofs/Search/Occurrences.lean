import HadithService.Proofs.Search.Diacritics
import HadithService.Proofs.Text.Sigma

/-!
# Topics that stand in a text

A hadith is on a topic that stands in one of its texts where no letter with a case is next to it.
Elsewhere this depends on the capital sigmas of the topic: the hadith is on the topic wherever this
stands exactly if the topic has no loose sigma (`Search.isOn_wherever_iff`).
-/

namespace HadithService

/-- One of the texts of a hadith that are looked through for topics. -/
inductive Hadith.IsSearched (h : Hadith) : String → Prop where
  | arabic : h.IsSearched h.arabic
  | english {text : String} (htext : h.english = some text) : h.IsSearched text
  | bookName : h.IsSearched h.bookName
  | chapterName : h.IsSearched h.chapterName

namespace Search

variable {h : Hadith} {text topic s left right : String}

theorem isOn_of_occursIn (hsearched : h.IsSearched text)
    (htopic : Text.occursIn topic (Text.fold text) = true) :
  isOn topic h = true
  := by
  cases hsearched with
  | english htext => simp [isOn, htext, htopic]
  | _ => simp [isOn, htopic]

/-- What a topic is folded to occurs in a folded text that it stands in if it is lowered there as if
it stood alone. -/
theorem isOn_of_isInfix (hsearched : h.IsSearched (left ++ s ++ right))
    (hoccurs : Text.lowerChars (Text.stripChars s.toList) <:+:
      Text.lowerChars (Text.stripChars left.toList ++ Text.stripChars s.toList
        ++ Text.stripChars right.toList)) :
  isOn (Text.fold s) h = true
  := by
  apply isOn_of_occursIn hsearched
  rw [Text.occursIn_iff, Text.fold, Text.fold, String.toList_ofList, String.toList_ofList,
    Text.foldChars, Text.foldChars, String.toList_append, String.toList_append,
    Text.stripChars_append, Text.stripChars_append]
  apply hoccurs

/-- A hadith is on a topic that stands in one of its texts where no letter with a case is next to
the topic, and it is wherever the topic stands exactly if this has no loose sigma. -/
theorem isOn_wherever_iff (s : String) :
  (∀ (h : Hadith) (left right : String), h.IsSearched (left ++ s ++ right) →
    Text.StandsApart (Text.stripChars left.toList) (Text.stripChars right.toList) →
      isOn (Text.fold s) h = true) ∧
    ((∀ (h : Hadith) (left right : String), h.IsSearched (left ++ s ++ right) →
      isOn (Text.fold s) h = true) ↔ ¬ Text.HasLooseSigma (Text.stripChars s.toList))
  := by
  constructor
  · intro h left right hsearched hapart
    apply isOn_of_isInfix hsearched (hapart.isInfix _)
  constructor
  · intro hall hloose
    obtain ⟨left, right, hleft, hright, hnot⟩ := hloose.exists_not_isInfix
    -- a hadith whose only text is the one that the sigma is disturbed in
    have hon := hall (hadithOf "ara-bukhari" (String.ofList left ++ s ++ String.ofList right))
      (String.ofList left) (String.ofList right) .arabic
    rw [isOn_hadithOf, Text.fold, String.toList_ofList, Text.foldChars, Text.foldChars,
      String.toList_append, String.toList_append, String.toList_ofList, String.toList_ofList,
      Text.stripChars_append, Text.stripChars_append, hleft, hright] at hon
    apply hnot hon
  · intro hloose h left right hsearched
    apply isOn_of_isInfix hsearched (Text.isInfix_of_not_loose hloose _ _)

/-- The start of a longer word ends with a sigma that is not final in the word. -/
theorem not_isOn_of_final_sigma :
  (hadithOf "ara-bukhari" "ΟΔΟΣΑ").IsSearched ("" ++ "ΟΔΟΣ" ++ "Α") ∧
    isOn (Text.fold "ΟΔΟΣ") (hadithOf "ara-bukhari" "ΟΔΟΣΑ") = false
  := by
  constructor
  · exact .arabic
  · decide +kernel

end Search

end HadithService
