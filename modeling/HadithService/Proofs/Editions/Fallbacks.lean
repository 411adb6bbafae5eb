import HadithService.Edition
import HadithService.Proofs.Text.Blank
import Mathlib.Data.List.Forall2

/-!
# Where hadiths have their fields from

Several fields of a hadith have more than one source.  The text and the narrator are the first ones
that are not blank.  So are the grade and the collection unless a blank one stands before one that
is not: then there is no grade, and the collection is called by the identifier of the edition
(`Edition.hadiths_comeFrom`).
-/

namespace HadithService

namespace Edition

variable {t : String}

/-- Of several texts that may be missing the first that is there and is not blank. -/
def firstUsable (sources : List (Option String)) : Option String :=
  (sources.filterMap id).find? fun t => !Text.isBlankText t

/-- A text that is there but blank stands before one that is not blank. -/
def hides (s s' : Option String) : Bool :=
  s.any Text.isBlankText && s'.any fun t => !Text.isBlankText t

theorem unlessBlank_of_blank (ht : Text.isBlankText t = true) :
  unlessBlank (some t) = none
  := by
  rw [unlessBlank, Option.bind_some, Text.unlessBlank, if_pos ht]

theorem unlessBlank_of_not_blank (ht : Text.isBlankText t = false) :
  unlessBlank (some t) = some t
  := by
  rw [unlessBlank, Option.bind_some, Text.unlessBlank, if_neg (Bool.eq_false_iff.mp ht)]

theorem firstUsable_cons (s : Option String) (sources : List (Option String)) :
  firstUsable (s :: sources) = (unlessBlank s <|> firstUsable sources)
  := by
  cases s with
  | none => rfl
  | some t =>
    cases ht : Text.isBlankText t with
    | true => simp [firstUsable, unlessBlank_of_blank ht, ht]
    | false => simp [firstUsable, unlessBlank_of_not_blank ht, ht]

theorem firstUsable_singleton (s : Option String) :
  firstUsable [s] = unlessBlank s
  := by
  rw [firstUsable_cons]
  cases unlessBlank s with
  | none => rfl
  | some t => rfl

/-- Where the second of two texts is taken only if the first is missing, a blank first one hides
it. -/
theorem unlessBlank_orElse (s s' : Option String) :
  unlessBlank (s <|> s') = if hides s s' then none else firstUsable [s, s']
  := by
  rw [firstUsable_cons, firstUsable_singleton]
  cases s with
  | none => rfl
  | some t =>
    have hfirst : (some t <|> s') = some t := rfl
    rw [hfirst]
    cases ht : Text.isBlankText t with
    | false => simp [hides, unlessBlank_of_not_blank ht, ht]
    | true =>
      cases s' with
      | none => simp [hides, ht, unlessBlank]
      | some u =>
        cases hu : Text.isBlankText u with
        | true => simp [hides, unlessBlank_of_blank, ht, hu]
        | false => simp [hides, unlessBlank_of_blank, ht, hu]

end Edition

open Edition (firstUsable hides)

/-- There is a text in an entry that is not too short. -/
def Entry.isKept (r : Entry) : Bool :=
  (firstUsable [r.text, r.english, r.translation]).any fun text => 10 < (Text.trim text).length

/-- A hadith has its fields from an entry of an edition that has an identifier. -/
structure Hadith.ComesFrom (e : Edition) (slug : String) (r : Entry) (h : Hadith) : Prop where
  text : firstUsable [r.text, r.english, r.translation] = some h.arabic
  narrator : h.narrator = firstUsable [r.narrator, r.reporter]
  grade : h.grade
    = if hides r.grades.head? r.grade then none else firstUsable [r.grades.head?, r.grade]
  collection : h.collection
    = if hides e.head.name e.collectionName then slug
      else (firstUsable [e.head.name, e.collectionName]).getD slug

theorem Entry.body_eq (r : Entry) :
  r.body = firstUsable [r.text, r.english, r.translation]
  := by
  rw [Edition.firstUsable_cons, Edition.firstUsable_cons, Edition.firstUsable_singleton]
  rfl

theorem Edition.collection_eq (e : Edition) (slug : String) :
  e.collection slug
    = if hides e.head.name e.collectionName then slug
      else (firstUsable [e.head.name, e.collectionName]).getD slug
  := by
  rw [collection, unlessBlank_orElse]
  split
  · rfl
  · rfl

/-- An entry that is kept becomes a hadith that comes from it, and no other entry becomes one. -/
theorem Entry.hadith?_cases (e : Edition) (slug : String) (r : Entry) :
  (r.isKept = false ∧ r.hadith? e slug = none) ∨
    (r.isKept = true ∧ ∃ h, r.hadith? e slug = some h ∧ h.ComesFrom e slug r)
  := by
  rw [Entry.hadith?, Entry.isKept, ← body_eq]
  cases hbody : r.body with
  | none =>
    left
    use rfl
  | some text =>
    have hlong : (some text).any (fun text => 10 < (Text.trim text).length) = true ↔
        ¬ (Text.trimChars text.toList).length ≤ Edition.shortText := by
      rw [Option.any_some, decide_eq_true_iff, Text.trim, String.length_ofList, Nat.not_le]
      rfl
    by_cases hshort : (Text.trimChars text.toList).length ≤ Edition.shortText
    · left
      rw [← Bool.not_eq_true, hlong]
      use not_not_intro hshort
      apply if_pos hshort
    · right
      use hlong.mpr hshort
      simp only [if_neg hshort, Option.some.injEq, exists_eq_left']
      constructor
      case text => rw [← body_eq, hbody]
      case narrator =>
        rw [Edition.firstUsable_cons, Edition.firstUsable_singleton]
      case grade => apply Edition.unlessBlank_orElse
      case collection => apply e.collection_eq

/-- The entries with a text that is not too short become the hadiths of an edition, each in its
place.  The text of a hadith and its narrator are the first ones of its entry that are not blank.
So are its grade and its collection, for which there is also the identifier, unless a blank one
hides one that is not. -/
theorem Edition.hadiths_comeFrom (e : Edition) (slug : String) :
  List.Forall₂ (Hadith.ComesFrom e slug) (e.entries.filter Entry.isKept) (e.hadiths slug)
  := by
  rw [Edition.hadiths]
  induction e.entries with
  | nil => apply List.Forall₂.nil
  | cons r entries ih =>
    rcases r.hadith?_cases e slug with ⟨hkept, hnone⟩ | ⟨hkept, h, hsome, hfrom⟩
    · rw [List.filter_cons_of_neg (Bool.eq_false_iff.mp hkept), List.filterMap_cons_none hnone]
      apply ih
    · rw [List.filter_cons_of_pos hkept, List.filterMap_cons_some hsome]
      apply List.Forall₂.cons hfrom ih

/-- The document of an edition with a blank name and an entry with a blank grade. -/
def blankDocument : List Symbol :=
  Symbol.ofText "\x7b\"metadata\":\x7b\"name\":\" \"\x7d,\"collection_name\":\"Muwatta\",\"hadiths\":["
    ++ Symbol.ofText "\x7b\"english\":\"Actions are judged by their intentions\","
    ++ Symbol.ofText "\"grades\":[\"\"],\"grade\":\"Hasan\"\x7d]\x7d"

/-- They hide the other name of the edition and the other grade of the entry. -/
theorem Edition.blank_name_and_grade_hide :
  (read? blankDocument).map (fun e =>
      (firstUsable [e.head.name, e.collectionName],
        e.entries.map fun r => firstUsable [r.grades.head?, r.grade],
        (e.hadiths "eng-malik").map fun h => (h.collection, h.grade)))
    = some (some "Muwatta", [some "Hasan"], [("eng-malik", none)])
  := by
  decide +kernel

end HadithService
