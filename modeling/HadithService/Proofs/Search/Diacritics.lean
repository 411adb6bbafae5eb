import HadithService.Proofs.Search.Alike
import HadithService.Proofs.Search.Everywhere

/-!
# Diacritics in queries

The blanks around a text are removed before its diacritics are, so a diacritic beyond them keeps
them in the topic, and a text of nothing but diacritics is not blank.  Texts that are the same
without diacritics and the blanks around them are therefore answered alike only under a condition
(`Search.alike_of_stripped`): they have to name a collection, or to have the same topic and to be
both blank or both not.
-/

namespace HadithService.Search

open EditionSource (atOnce)

variable {x x' : String} {collection : Option String} {limit : Option Nat}

/-- What a text asks for when it is taken for a topic. -/
def topicOf (x : String) : String :=
  Text.fold (Text.trim x)

theorem topicOf_of_blank (hx : Text.isBlankText x = true) :
  topicOf x = ""
  := by
  have htrim : Text.trim x = "" := Text.isBlankText_iff.mp hx
  rw [topicOf, htrim]
  rfl

/-! ### Texts that are on one topic and not on another -/

/-- What does not end with a character does not occur in a text because the character is put after
it. -/
theorem isInfix_of_append_replicate {part cs : List Char} {c : Char} (n : Nat)
    (hlast : part.getLast? ≠ some c) (h : part <:+: cs ++ List.replicate n c) :
  part <:+: cs
  := by
  induction n with
  | zero =>
    rw [List.replicate_zero, List.append_nil] at h
    apply h
  | succ n ih =>
    rw [List.replicate_succ', ← List.append_assoc, List.infix_concat_iff,
      List.suffix_concat_iff] at h
    rcases h with (rfl | ⟨before, rfl, -⟩) | h
    · apply List.nil_infix
    · cases hlast (List.getLast?_concat ..)
    · apply ih h

/-- A character that stays as it is in a text, whatever stands around it. -/
structure IsFiller (c : Char) : Prop extends Text.IsNeutral c where
  not_blank : Text.isBlank c = false
  not_diacritic : Text.isDiacritic c = false

/-- The digits one and two. -/
def fillers : CodeRanges where
  ranges := [(0x31, 0x32)]

theorem isFiller_of_has {c : Char} (hc : fillers.has c = true) :
  IsFiller c
  where
    lowerChar := by
      have hcaseless : Text.IsCaseless fillers := by decide +kernel
      apply hcaseless.lowerChar hc
    ne_sigma := by
      rintro rfl
      cases hc
    isCased := by
      have hapart : fillers.Apart Text.casedLetters := by decide +kernel
      apply hapart.has_eq_false hc
    isCaseIgnorable := by
      have hapart : fillers.Apart Text.caseIgnorable := by decide +kernel
      apply hapart.has_eq_false hc
    not_blank := by
      have hapart : fillers.Apart Text.whiteSpace := by decide
      apply hapart.has_eq_false hc
    not_diacritic := by
      have hapart : fillers.Apart Text.diacritics := by decide
      apply hapart.has_eq_false hc

/-- There is always one that a text does not end with. -/
theorem exists_filler (part : List Char) :
  ∃ c, IsFiller c ∧ part.getLast? ≠ some c
  := by
  by_cases hone : part.getLast? = some '1'
  · use '2', isFiller_of_has rfl
    rw [hone]
    decide
  · use '1', isFiller_of_has rfl

/-- When a folded text does not occur in another one, there is a long text in which this one occurs
and that one does not. -/
theorem exists_text_of_not_isInfix {cs part : List Char} (h : ¬ part <:+: Text.foldChars cs) :
  ∃ text : String, 10 < (Text.trimChars text.toList).length ∧
    Text.foldChars cs <:+: Text.foldChars text.toList ∧ ¬ part <:+: Text.foldChars text.toList
  := by
  obtain ⟨c, hc, hlast⟩ := exists_filler part
  have hneutral : ∀ d ∈ List.replicate 11 c, Text.IsNeutral d := by
    intro d hd
    rw [List.eq_of_mem_replicate hd]
    apply hc.toIsNeutral
  have hstrip : Text.stripChars (List.replicate 11 c) = List.replicate 11 c := by
    rw [Text.stripChars, List.filter_eq_self]
    intro d hd
    rw [List.eq_of_mem_replicate hd, hc.not_diacritic]
    rfl
  have hfold : Text.foldChars (cs ++ List.replicate 11 c)
      = Text.foldChars cs ++ List.replicate 11 c := by
    rw [Text.foldChars, Text.stripChars_append, hstrip, Text.lowerChars,
      Text.lowerFrom_append hneutral]
    rfl
  use String.ofList (cs ++ List.replicate 11 c)
  rw [String.toList_ofList, hfold]
  constructor
  · have hfiller : ∀ d ∈ List.replicate 11 c, Text.isBlank d = false := by
      intro d hd
      rw [List.eq_of_mem_replicate hd, hc.not_blank]
    have hlength := Text.length_le_trimChars cs hfiller
    rw [List.length_replicate] at hlength
    omega
  constructor
  · apply List.prefix_append _ _ |>.isInfix
  · intro hinfix
    apply h (isInfix_of_append_replicate 11 hlast hinfix)

/-- An entry that has nothing but a text. -/
def entryOf (text : String) : Entry :=
  ⟨none, none, some text, none, none, [], none, none, none, none, none, none, none, none⟩

/-- An edition of a single text. -/
def editionOf (text : String) : Edition :=
  ⟨⟨none, []⟩, none, [entryOf text]⟩

/-- The hadith of an edition of a single text. -/
def hadithOf (slug text : String) : Hadith where
  number := ""
  collection := slug
  bookName := ""
  chapterName := ""
  arabic := text
  english := if Edition.isArabic slug then none else some text
  grade := none
  narrator := none
  source := Edition.sourceName

theorem hadiths_editionOf {text : String} (slug : String)
    (hlong : 10 < (Text.trimChars text.toList).length) :
  (editionOf text).hadiths slug = [hadithOf slug text]
  := by
  have hblank : Text.isBlankText text = false := by
    rw [Bool.eq_false_iff]
    intro hblank
    have htrim := Text.isBlankText_iff.mp hblank
    rw [Text.trim, String.ofList_eq_empty_iff] at htrim
    rw [htrim] at hlong
    cases hlong
  have hbody : (entryOf text).body = some text := by
    simp [entryOf, Entry.body, Edition.unlessBlank, Text.unlessBlank, hblank]
  have hlength : ¬ (Text.trimChars text.toList).length ≤ Edition.shortText := Nat.not_le.mpr hlong
  have hhadith : (entryOf text).hadith? (editionOf text) slug = some (hadithOf slug text) := by
    simp only [Entry.hadith?, hbody, if_neg hlength]
    rfl
  have hentries : (editionOf text).entries = [entryOf text] := rfl
  rw [Edition.hadiths, hentries, List.filterMap_cons_some hhadith, List.filterMap_nil]

/-- It is on the topics that occur in the text. -/
theorem isOn_hadithOf {slug text topic : String} :
  isOn topic (hadithOf slug text) = true ↔ topic.toList <:+: Text.foldChars text.toList
  := by
  have htext : Text.occursIn topic (Text.fold text) = true ↔
      topic.toList <:+: Text.foldChars text.toList := by
    rw [Text.occursIn_iff, Text.fold, String.toList_ofList]
  have hempty : topic.isEmpty = true → topic.toList <:+: Text.foldChars text.toList := by
    intro h
    rw [String.isEmpty_iff.mp h]
    apply List.nil_infix
  have hnone : Text.occursIn topic (Text.fold "") = true →
      topic.toList <:+: Text.foldChars text.toList := by
    intro h
    have hnil : topic.toList = [] := List.infix_nil.mp (Text.occursIn_iff.mp h)
    rw [hnil]
    apply List.nil_infix
  constructor
  · intro h
    simp only [isOn, hadithOf, Bool.or_eq_true] at h
    rcases h with (((h | h) | h) | h) | h
    · apply hempty h
    · apply htext.mp h
    · split at h
      · cases h
      · rw [Option.any_some] at h
        apply htext.mp h
    · apply hnone h
    · apply hnone h
  · intro h
    simp [isOn, hadithOf, htext.mpr h]

/-- For different topics there is something to publish that is on the one and not on the other. -/
theorem exists_published (h : topicOf x ≠ topicOf x') :
  ∃ (published : String → Publication) (on : Bool), ∀ slug, ∃ hadith,
    (atOnce published).edition slug = .ok [hadith] ∧ isOn (topicOf x) hadith = on ∧
      isOn (topicOf x') hadith = !on
  := by
  have hone : ∀ x x', ¬ (topicOf x').toList <:+: (topicOf x).toList →
      ∃ published : String → Publication, ∀ slug, ∃ hadith,
        (atOnce published).edition slug = .ok [hadith] ∧ isOn (topicOf x) hadith = true ∧
          isOn (topicOf x') hadith = false := by
    intro x x' hother
    have htopic : (topicOf x).toList = Text.foldChars (Text.trim x).toList := String.toList_ofList
    rw [htopic] at hother
    obtain ⟨text, hlong, hon, hoff⟩ := exists_text_of_not_isInfix hother
    refine ⟨fun _ => .ok (editionOf text), fun slug => ⟨hadithOf slug text, ?_⟩⟩
    constructor
    · rw [atOnce_edition, Fetched.ofPublication, Except.map, hadiths_editionOf slug hlong]
    constructor
    · rw [isOn_hadithOf, htopic]
      apply hon
    · rw [Bool.eq_false_iff, ne_eq, isOn_hadithOf]
      apply hoff
  by_cases hin : (topicOf x').toList <:+: (topicOf x).toList
  · have hout : ¬ (topicOf x).toList <:+: (topicOf x').toList :=
      fun hout => h (String.toList_inj.mp (List.infix_antisymm hout hin))
    obtain ⟨published, hpublished⟩ := hone x' x hout
    refine ⟨published, false, fun slug => ?_⟩
    obtain ⟨hadith, hfetched, hon, hoff⟩ := hpublished slug
    exact ⟨hadith, hfetched, hoff, hon⟩
  · obtain ⟨published, hpublished⟩ := hone x x' hin
    refine ⟨published, true, fun slug => ?_⟩
    obtain ⟨hadith, hfetched, hon, hoff⟩ := hpublished slug
    exact ⟨hadith, hfetched, hon, hoff⟩

/-! ### Answers to texts -/

theorem results_total_eq_zero_iff {limit : Nat} {hadiths : List Hadith} :
  (results limit hadiths).total = 0 ↔ hadiths = []
  := by
  have htotal : (results limit hadiths).total = (hadiths.map fun h => Text.trim h.arabic).toFinset.card :=
    length_arrange hadiths
  rw [htotal, Finset.card_eq_zero, List.toFinset_eq_empty_iff, List.map_eq_nil_iff]

/-- With the name of a collection a text is taken for a topic; a blank one is a topic that every
hadith is on. -/
theorem answerFrom_named {name : String} {edition : String → Fetched}
    (hcollection : given collection = some name) :
  (Query.mk (some x) collection limit).answerFrom edition
    = (named (Collection.resolve name) [edition (Collection.resolve name)]).map fun hadiths =>
        some (results (limit.getD defaultLimit) (hadiths.filter (isOn (topicOf x))))
  := by
  cases hx : Text.isBlankText x with
  | true =>
    have hplan : (Query.mk (some x) collection limit).plan = .whole (Collection.resolve name) := by
      rw [Query.plan, hcollection, given_of_blank hx]
    have hon : isOn (topicOf x) = fun _ => true := by
      rw [topicOf_of_blank hx]
      rfl
    rw [Query.answerFrom, Query.answer, hplan, hon]
    simp only [List.filter_true]
    rfl
  | false =>
    have hplan : (Query.mk (some x) collection limit).plan
        = .within (Collection.resolve name) (topicOf x) := by
      rw [Query.plan, hcollection, given_of_not_blank hx]
      rfl
    rw [Query.answerFrom, Query.answer, hplan]
    simp only [Plan.found, Plan.slugs, List.map_cons, List.map_nil]
    cases named (Collection.resolve name) [edition (Collection.resolve name)] with
    | error e => rfl
    | ok hadiths => rfl

theorem alike_of_named {name : String} (hcollection : given collection = some name) :
  AnsweredAlike ⟨some x, collection, limit⟩ ⟨some x', collection, limit⟩ ↔ topicOf x = topicOf x'
  := by
  rw [answeredAlike_iff]
  constructor
  · intro h
    by_contra hne
    obtain ⟨published, on, hpublished⟩ := exists_published hne
    obtain ⟨hadith, hfetched, hon, hoff⟩ := hpublished (Collection.resolve name)
    have heq := h published
    rw [answerFrom_named hcollection, answerFrom_named hcollection, hfetched] at heq
    simp only [named, Except.map, Except.ok.injEq, Option.some.injEq] at heq
    have htotal := congrArg (fun r : Results => r.total = 0) heq
    simp only [results_total_eq_zero_iff, List.filter_cons, hon, hoff] at htotal
    cases on with
    | _ => simp at htotal
  · intro h published
    rw [answerFrom_named hcollection, answerFrom_named hcollection, h]

/-- When every edition is a single hadith, there are results of a search of all collections exactly
when these are on the topic. -/
theorem topicResults_total_eq_zero_iff {source : EditionSource} {topic : String} {limit : Nat}
    {on : Bool}
    (h : ∀ slug, ∃ hadith, source.edition slug = .ok [hadith] ∧ isOn topic hadith = on) :
  (topicResults source topic limit).total = 0 ↔ on = false
  := by
  have hfilter : ∀ slug, (fetchedHadiths (source.edition slug)).filter (isOn topic) = [] ↔
      on = false := by
    intro slug
    obtain ⟨hadith, hfetched, hon⟩ := h slug
    rw [hfetched, fetchedHadiths, List.filter_cons, hon]
    cases on with
    | _ => simp
  have hnil : onTopic source topic = [] ↔ on = false := by
    rw [onTopic, List.flatMap_eq_nil_iff]
    simp only [hfilter]
    constructor
    · intro hall
      apply hall "ara-bukhari" (by decide)
    · intro hon _ _
      apply hon
  rw [← hnil, topicResults, Finset.card_eq_zero, List.toFinset_eq_empty_iff, List.map_eq_nil_iff]

theorem alike_of_unnamed (hcollection : given collection = none)
    (hx : Text.isBlankText x = false) (hx' : Text.isBlankText x' = false)
    (hdetect : Collection.detect x = none) (hdetect' : Collection.detect x' = none) :
  AnsweredAlike ⟨some x, collection, limit⟩ ⟨some x', collection, limit⟩ ↔ topicOf x = topicOf x'
  := by
  have hanswer : ∀ (published : String → Publication) (x : String), Text.isBlankText x = false →
      Collection.detect x = none →
      (Query.mk (some x) collection limit).answerFrom (atOnce published).edition
        = .ok (some (topicResults (atOnce published) (topicOf x) (limit.getD defaultLimit))) := by
    intro published x hx hdetect
    have hplan : (Query.mk (some x) collection limit).plan = .everywhere (topicOf x) := by
      apply plan_eq_everywhere hcollection (given_of_not_blank hx)
      rw [Collection.detect_trim, hdetect]
    apply answerFrom_everywhere hplan
  rw [answeredAlike_iff]
  constructor
  · intro h
    by_contra hne
    obtain ⟨published, on, hpublished⟩ := exists_published hne
    have heq := h published
    rw [hanswer published x hx hdetect, hanswer published x' hx' hdetect'] at heq
    have htotal := congrArg (fun r : Results => r.total = 0) (Option.some.inj (Except.ok.inj heq))
    have hon : ∀ slug, ∃ hadith, (atOnce published).edition slug = .ok [hadith] ∧
        isOn (topicOf x) hadith = on := by
      intro slug
      obtain ⟨hadith, hfetched, hon, -⟩ := hpublished slug
      exact ⟨hadith, hfetched, hon⟩
    have hoff : ∀ slug, ∃ hadith, (atOnce published).edition slug = .ok [hadith] ∧
        isOn (topicOf x') hadith = !on := by
      intro slug
      obtain ⟨hadith, hfetched, -, hoff⟩ := hpublished slug
      exact ⟨hadith, hfetched, hoff⟩
    simp only [topicResults_total_eq_zero_iff hon, topicResults_total_eq_zero_iff hoff] at htotal
    cases on with
    | _ => simp at htotal
  · intro h published
    rw [hanswer published x hx hdetect, hanswer published x' hx' hdetect', h]

theorem answerFrom_eq_none_iff {q : Query} {edition : String → Fetched} :
  q.answerFrom edition = .ok none ↔ q.plan = .nothing
  := by
  rw [Query.answerFrom, Query.answer]
  split
  case h_1 hplan => simp [hplan]
  case h_2 hplan =>
    constructor
    · intro h
      cases hfound : q.plan.found (q.plan.slugs.map edition) with
      | error e =>
        rw [hfound] at h
        cases h
      | ok hadiths =>
        rw [hfound] at h
        cases h
    · intro h
      cases hplan h

theorem plan_eq_nothing_iff (hcollection : given collection = none) :
  (Query.mk (some x) collection limit).plan = .nothing ↔ Text.isBlankText x = true
  := by
  cases hx : Text.isBlankText x with
  | true => simp [Query.plan, hcollection, given_of_blank hx]
  | false =>
    rw [Query.plan, hcollection, given_of_not_blank hx]
    cases hdetect : Collection.detect (Text.trim x) with
    | none => simp [hdetect]
    | some slug => simp [hdetect]

/-- A blank text without a collection is answered like another one when that is blank as well. -/
theorem alike_of_blank (hcollection : given collection = none) (hx : Text.isBlankText x = true) :
  AnsweredAlike ⟨some x, collection, limit⟩ ⟨some x', collection, limit⟩ ↔
    Text.isBlankText x' = true
  := by
  have hnone : ∀ published : String → Publication,
      (Query.mk (some x) collection limit).answerFrom (atOnce published).edition = .ok none :=
    fun published => answerFrom_eq_none_iff.mpr ((plan_eq_nothing_iff hcollection).mpr hx)
  simp only [answeredAlike_iff, hnone, eq_comm (a := Except.ok none), answerFrom_eq_none_iff,
    plan_eq_nothing_iff hcollection]
  constructor
  · intro h
    apply h fun _ => .error .request
  · intro hx' _
    apply hx'

/-- A text without a collection that names none is answered like another one when both are blank, or
neither, and they have the same topic. -/
theorem alike_of_undetected (hcollection : given collection = none)
    (hdetect : Collection.detect x = none) (hdetect' : Collection.detect x' = none) :
  AnsweredAlike ⟨some x, collection, limit⟩ ⟨some x', collection, limit⟩ ↔
    topicOf x = topicOf x' ∧ Text.isBlankText x = Text.isBlankText x'
  := by
  cases hx : Text.isBlankText x with
  | true =>
    rw [alike_of_blank hcollection hx, eq_comm (a := true), iff_and_self]
    intro hx'
    rw [topicOf_of_blank hx, topicOf_of_blank hx']
  | false =>
    cases hx' : Text.isBlankText x' with
    | true =>
      rw [answeredAlike_comm, alike_of_blank hcollection hx', hx]
      simp
    | false => simp [alike_of_unnamed hcollection hx hx' hdetect hdetect']

/-- A text without a collection that names one is a query for that. -/
theorem alike_of_detected {slug : String} (hcollection : given collection = none)
    (hdetect : Collection.detect x = some slug) (hdetect' : Collection.detect x' = some slug) :
  AnsweredAlike ⟨some x, collection, limit⟩ ⟨some x', collection, limit⟩
  := by
  have hplan : ∀ x, Collection.detect x = some slug →
      (Query.mk (some x) collection limit).plan = .whole slug := by
    intro x hdetect
    have hx : Text.isBlankText x = false := by
      rw [Bool.eq_false_iff]
      intro hblank
      rw [Collection.detect_eq_none_of_blank hblank] at hdetect
      cases hdetect
    apply plan_of_detected hx hcollection hdetect
  rw [answeredAlike_iff]
  intro published
  apply answerFrom_congr
  · rw [hplan x hdetect, hplan x' hdetect']
  · rfl

/-- Two texts that are the same without diacritics and the blanks around them are answered alike
exactly when no collection is given and they name one, or when they have the same topic and are, if
no collection is given, both blank or both not. -/
theorem alike_of_stripped
    (h : Text.trim (Text.stripDiacritics x) = Text.trim (Text.stripDiacritics x'))
    (collection : Option String) (limit : Option Nat) :
  AnsweredAlike ⟨some x, collection, limit⟩ ⟨some x', collection, limit⟩ ↔
    (given collection = none ∧ (Collection.detect x).isSome) ∨
    (topicOf x = topicOf x' ∧
      (given collection = none → Text.isBlankText x = Text.isBlankText x'))
  := by
  have hsame : Collection.detect x = Collection.detect x' :=
    Collection.detect_congr (Collection.wordsOf_congr h)
  cases hcollection : given collection with
  | some name => simp [alike_of_named hcollection]
  | none =>
    cases hdetect : Collection.detect x with
    | none => simp [alike_of_undetected hcollection hdetect (hsame ▸ hdetect)]
    | some slug => simp [alike_of_detected hcollection hdetect (hsame ▸ hdetect)]

/-- Vowel signs within a text do not matter. -/
theorem alike_of_stripped_vowels :
  Text.trim (Text.stripDiacritics "الصَّلَاة") = Text.trim (Text.stripDiacritics " الصلاة ") ∧
    AnsweredAlike ⟨some "الصَّلَاة", none, some 5⟩ ⟨some " الصلاة ", none, some 5⟩
  := by
  have hsame : Text.trim (Text.stripDiacritics "الصَّلَاة")
      = Text.trim (Text.stripDiacritics " الصلاة ") := by decide +kernel
  use hsame
  apply (alike_of_stripped hsame none (some 5)).mpr
  right
  constructor
  · decide +kernel
  · intro _
    decide +kernel

/-- An elongation stroke before a blank keeps the blank in the topic, and one that stands alone is a
topic that every hadith is on. -/
theorem not_alike_of_strokes :
  Text.trim (Text.stripDiacritics "ـ الصلاة") = Text.trim (Text.stripDiacritics "الصلاة") ∧
    ¬ AnsweredAlike ⟨some "ـ الصلاة", none, none⟩ ⟨some "الصلاة", none, none⟩ ∧
    Text.trim (Text.stripDiacritics "ـ") = Text.trim (Text.stripDiacritics " ") ∧
    ¬ AnsweredAlike ⟨some "ـ", none, none⟩ ⟨some " ", none, none⟩
  := by
  have hprayer : Text.trim (Text.stripDiacritics "ـ الصلاة")
      = Text.trim (Text.stripDiacritics "الصلاة") := by decide +kernel
  have hblank : Text.trim (Text.stripDiacritics "ـ") = Text.trim (Text.stripDiacritics " ") := by
    decide +kernel
  have hnone : ∀ {x x'}, Text.trim (Text.stripDiacritics x) = Text.trim (Text.stripDiacritics x') →
      Collection.detect x' = none → Collection.detect x = none :=
    fun h hdetect => (Collection.detect_congr (Collection.wordsOf_congr h)).trans hdetect
  use hprayer
  constructor
  · have hdetect : Collection.detect "الصلاة" = none := by decide +kernel
    rw [alike_of_undetected rfl (hnone hprayer hdetect) hdetect]
    decide +kernel
  use hblank
  · have hdetect : Collection.detect " " = none := Collection.detect_eq_none_of_blank rfl
    rw [alike_of_undetected rfl (hnone hblank hdetect) hdetect]
    decide +kernel

end HadithService.Search
