import HadithService.Proofs.Search.Occurrences

/-!
# Refined queries

When the topic of a query stands in the topic of another one, the other query finds fewer hadiths in
the same editions (`Search.isOn_of_part`).  It need not get a part of the same results: of a text
that comes several times another hadith may be the first that is found.  But it gets none but the
same texts, and no more of them (`Search.refined_adds_no_text`).
-/

namespace HadithService.Search

variable {source : EditionSource} {q q' : Query} {slugs : List String} {h : Hadith}
  {part whole name key : String}

/-! ### Hadiths on a topic -/

/-- A hadith is on the empty topic, and on those that stand in one of its texts. -/
theorem isOn_iff {topic : String} :
  isOn topic h = true ↔
    topic = "" ∨ ∃ text, h.IsSearched text ∧ topic.toList <:+: (Text.fold text).toList
  := by
  constructor
  · intro hon
    simp only [isOn, Bool.or_eq_true, String.isEmpty_iff, Option.any_eq_true, Text.occursIn_iff]
      at hon
    rcases hon with (((hon | hon) | ⟨text, htext, hon⟩) | hon) | hon
    · left
      apply hon
    · right
      use h.arabic, .arabic
    · right
      use text, .english htext
    · right
      use h.bookName, .bookName
    · right
      use h.chapterName, .chapterName
  · rintro (rfl | ⟨text, hsearched, hoccurs⟩)
    · rfl
    · apply isOn_of_occursIn hsearched (Text.occursIn_iff.mpr hoccurs)

/-- A hadith on a topic is on every part of the topic. -/
theorem isOn_of_part (hpart : part.toList <:+: whole.toList) (hon : isOn whole h = true) :
  isOn part h = true
  := by
  rw [isOn_iff] at hon ⊢
  rcases hon with rfl | ⟨text, hsearched, hoccurs⟩
  · left
    apply String.toList_inj.mp (List.infix_nil.mp hpart)
  · right
    exact ⟨text, hsearched, hpart.trans hoccurs⟩

/-- The hadiths on a topic in some editions, as far as they are there. -/
def foundIn (source : EditionSource) (slugs : List String) (topic : String) : List Hadith :=
  slugs.flatMap fun slug => (fetchedHadiths (source.edition slug)).filter (isOn topic)

/-- Their texts. -/
def textsIn (source : EditionSource) (slugs : List String) (topic : String) : Finset String :=
  ((foundIn source slugs topic).map fun h => Text.trim h.arabic).toFinset

theorem mem_textsIn {topic : String} :
  key ∈ textsIn source slugs topic ↔
    ∃ slug ∈ slugs, ∃ h ∈ fetchedHadiths (source.edition slug),
      isOn topic h = true ∧ Text.trim h.arabic = key
  := by
  simp only [textsIn, foundIn, List.mem_toFinset, List.mem_map, List.mem_flatMap, List.mem_filter]
  constructor
  · rintro ⟨h, ⟨slug, hslug, hh, hon⟩, hkey⟩
    use slug, hslug, h, hh, hon
  · rintro ⟨slug, hslug, h, hh, hon, hkey⟩
    use h, ⟨slug, hslug, hh, hon⟩

/-- There are no more texts on a topic than on its parts. -/
theorem textsIn_subset (hpart : part.toList <:+: whole.toList) :
  textsIn source slugs whole ⊆ textsIn source slugs part
  := by
  intro key hkey
  rw [mem_textsIn] at hkey ⊢
  obtain ⟨slug, hslug, h, hh, hon, hkey⟩ := hkey
  use slug, hslug, h, hh, isOn_of_part hpart hon

/-! ### Queries and what they read -/

/-- What a query is about.  Without a text it has the empty topic, which every hadith is on. -/
def Query.topic (q : Query) : String :=
  topicOf (q.text.getD "")

/-- The editions that a query reads through for its topic: that of the collection it gives, or, when
it gives none and its text names none either, those of all great collections. -/
inductive Query.Reads (q : Query) : List String → Prop where
  | named {name : String} (hcollection : given q.collection = some name) :
    q.Reads [Collection.resolve name]
  | everywhere {text : String} (hcollection : given q.collection = none)
    (htext : given q.text = some text) (hunnamed : Collection.detect text = none) :
    q.Reads Collection.topicEditions

/-- When a query gives a collection, it is answered with what is on its topic in its edition. -/
theorem answerFrom_of_named {edition : String → Fetched}
    (hcollection : given q.collection = some name) :
  q.answerFrom edition
    = (named (Collection.resolve name) [edition (Collection.resolve name)]).map fun hadiths =>
        some (results q.cut (hadiths.filter (isOn q.topic)))
  := by
  obtain ⟨text, collection, limit⟩ := q
  cases text with
  | some text => apply answerFrom_named hcollection
  | none =>
    have hblank : given none = given (some "") := (given_of_blank rfl).symm
    have hplan : (Query.mk none collection limit).plan
        = (Query.mk (some "") collection limit).plan := by
      rw [Query.plan, Query.plan, hblank]
    rw [answerFrom_congr hplan rfl]
    apply answerFrom_named hcollection

/-- A query is about its text, as far as it has one. -/
theorem fold_of_given {text : String} (htext : given q.text = some text) :
  Text.fold text = q.topic
  := by
  obtain ⟨given, hgiven, rfl⟩ := Option.map_eq_some_iff.mp htext
  obtain ⟨t, ht, hblank⟩ := Option.bind_eq_some_iff.mp hgiven
  rw [Text.unlessBlank] at hblank
  split at hblank
  · cases hblank
  · rw [Query.topic, ht, ← Option.some.inj hblank]
    rfl

/-- A query fails if it reads a single edition and that cannot be fetched. -/
theorem Query.Reads.answerFrom_of_error {slug : String} {cause : SourceError}
    (hreads : q.Reads slugs) (hsingle : slugs = [slug]) (hslug : source.edition slug = .error cause) :
  q.answerFrom source.edition = .error ⟨slug, cause⟩
  := by
  cases hreads with
  | named hcollection =>
    rw [answerFrom_of_named hcollection, List.singleton_inj.mp hsingle, hslug]
    rfl
  | everywhere => cases congrArg List.length hsingle

/-- Otherwise it gets what is on its topic in the editions that it reads. -/
theorem Query.Reads.answerFrom_of_ok (hreads : q.Reads slugs)
    (hslugs : ∀ slug cause, slugs = [slug] → source.edition slug ≠ .error cause) :
  q.answerFrom source.edition = .ok (some (results q.cut (foundIn source slugs q.topic)))
  := by
  cases hreads with
  | @named name hcollection =>
    rw [answerFrom_of_named hcollection]
    cases hfetched : source.edition (Collection.resolve name) with
    | error cause => cases hslugs _ cause rfl hfetched
    | ok hadiths =>
      rw [foundIn, List.flatMap_singleton, hfetched]
      rfl
  | everywhere hcollection htext hunnamed =>
    have hplan := plan_eq_everywhere hcollection htext hunnamed
    rw [answerFrom_everywhere hplan, fold_of_given htext, topicResults, ← length_arrange]
    rfl

/-! ### Refined queries -/

/-- The texts of results. -/
def Results.texts (r : Results) : Finset String :=
  (r.hadiths.map fun h => Text.trim h.arabic).toFinset

theorem texts_results_subset (limit : Nat) (hadiths : List Hadith) :
  (results limit hadiths).texts ⊆ (hadiths.map fun h => Text.trim h.arabic).toFinset
  := by
  intro key hkey
  obtain ⟨h, hh, rfl⟩ := List.mem_map.mp (List.mem_toFinset.mp hkey)
  have hmem : h ∈ arrange hadiths := List.mem_of_mem_take hh
  rw [(isArrangement_arrange hadiths).mem_iff] at hmem
  apply List.mem_toFinset.mpr (List.mem_map_of_mem (List.mem_of_find?_eq_some hmem))

/-- Results that the limit does not cut have all texts. -/
theorem texts_results {limit : Nat} {hadiths : List Hadith}
    (hlimit : (results limit hadiths).total ≤ limit) :
  (results limit hadiths).texts = (hadiths.map fun h => Text.trim h.arabic).toFinset
  := by
  apply Finset.eq_of_subset_of_card_le (texts_results_subset limit hadiths)
  have htake : (arrange hadiths).take limit = arrange hadiths := List.take_of_length_le hlimit
  rw [Results.texts, results, htake, List.toFinset_card_of_nodup (nodup_keys_arrange hadiths),
    List.length_map, length_arrange]

/-- What a query can get from a source is some results, and these have certain texts: as many as
there are of them, and all of them unless the limit cuts some off. -/
structure Gets (source : EditionSource) (q : Query) (texts : Finset String) (r : Results) :
    Prop where
  answer : ∀ answer, IsAnswer source q answer ↔ answer = .ok (some r)
  total : r.total = texts.card
  subset : r.texts ⊆ texts
  all : r.total ≤ q.cut → r.texts = texts

theorem Query.Reads.exists_gets (hreads : q.Reads slugs)
    (hslugs : ∀ slug cause, slugs = [slug] → source.edition slug ≠ .error cause) :
  ∃ r, Gets source q (textsIn source slugs q.topic) r
  := by
  use results q.cut (foundIn source slugs q.topic)
  constructor
  · intro answer
    rw [isAnswer_iff, hreads.answerFrom_of_ok hslugs]
  · apply length_arrange
  · apply texts_results_subset
  · apply texts_results

/-- Of two queries that read the same editions, one of them about a part of what the other one is
about, either both fail since the edition of the collection that they give cannot be fetched, or both
get the texts on their topics.  Then the more refined query gets no more texts than the other one,
and none that the other one does not get, unless the limit keeps it from that. -/
theorem refined_adds_no_text (source : EditionSource) (hreads : q.Reads slugs)
    (hreads' : q'.Reads slugs) (hpart : q.topic.toList <:+: q'.topic.toList) :
  (∃ slug cause, slugs = [slug] ∧ source.edition slug = .error cause ∧
    ∀ answer, (IsAnswer source q answer ↔ answer = .error ⟨slug, cause⟩) ∧
      (IsAnswer source q' answer ↔ answer = .error ⟨slug, cause⟩)) ∨
  ∃ r r', Gets source q (textsIn source slugs q.topic) r ∧
    Gets source q' (textsIn source slugs q'.topic) r' ∧
    r'.total ≤ r.total ∧ (r.total ≤ q.cut → r'.texts ⊆ r.texts)
  := by
  by_cases hfails : ∃ slug cause, slugs = [slug] ∧ source.edition slug = .error cause
  · left
    obtain ⟨slug, cause, hsingle, hslug⟩ := hfails
    use slug, cause, hsingle, hslug
    intro answer
    rw [isAnswer_iff, isAnswer_iff, hreads.answerFrom_of_error hsingle hslug,
      hreads'.answerFrom_of_error hsingle hslug]
    exact ⟨Iff.rfl, Iff.rfl⟩
  · right
    have hslugs : ∀ slug cause, slugs = [slug] → source.edition slug ≠ .error cause :=
      fun slug cause heq hslug => hfails ⟨slug, cause, heq, hslug⟩
    obtain ⟨r, hr⟩ := hreads.exists_gets hslugs
    obtain ⟨r', hr'⟩ := hreads'.exists_gets hslugs
    have hsub : textsIn source slugs q'.topic ⊆ textsIn source slugs q.topic := textsIn_subset hpart
    use r, r', hr, hr'
    constructor
    · rw [hr.total, hr'.total]
      apply Finset.card_le_card hsub
    · intro hlimit
      rw [hr.all hlimit]
      apply hr'.subset.trans hsub

/-- A source of one edition, in which a text comes twice, the second time in a chapter with a longer
title. -/
def twiceInEdition : EditionSource := fun slug =>
  if slug = "ara-bukhari" then
    ⟨1, .ok [fasting "Bukhari" "5" "من صام رمضان",
      { fasting "Bukhari" "9" " من صام رمضان " with chapterName := "Fasting at home" }]⟩
  else ⟨0, .error (.status 404)⟩

/-- The longer query gets the text that the shorter one gets, but from another hadith. -/
theorem refined_adds_no_text_twice :
  let q : Query := ⟨some "fasting", some "bukhari", none⟩
  let q' : Query := ⟨some " FASTING at", some "Sahih_Bukhari ", some 1⟩
  q.topic.toList <:+: q'.topic.toList ∧
    ∃ r r', Gets twiceInEdition q {"من صام رمضان"} r ∧ Gets twiceInEdition q' {"من صام رمضان"} r' ∧
      r'.total ≤ r.total ∧ r'.texts ⊆ r.texts ∧
      r.hadiths.map Hadith.number = ["5"] ∧ r'.hadiths.map Hadith.number = ["9"]
  := by
  intro q q'
  have hname : given q.collection = some "bukhari" := by decide +kernel
  have hname' : given q'.collection = some "Sahih_Bukhari" := by decide +kernel
  have hslug : Collection.resolve "bukhari" = "ara-bukhari" := by decide +kernel
  have hslug' : Collection.resolve "Sahih_Bukhari" = "ara-bukhari" := by decide +kernel
  have hreads : q.Reads ["ara-bukhari"] := hslug ▸ .named hname
  have hreads' : q'.Reads ["ara-bukhari"] := hslug' ▸ .named hname'
  have hpart : q.topic.toList <:+: q'.topic.toList := Text.occursIn_iff.mp (by decide +kernel)
  use hpart
  have hfetched : ∀ slug cause, ["ara-bukhari"] = [slug] →
      twiceInEdition.edition slug ≠ .error cause := by
    rintro slug cause hslug herror
    rw [← List.singleton_inj.mp hslug] at herror
    cases herror
  have hnumbers : ∀ {q r texts k}, Gets twiceInEdition q texts r → q.Reads ["ara-bukhari"] →
      unseen [] (foundIn twiceInEdition ["ara-bukhari"] q.topic) = [k] → q.cut ≠ 0 →
      r.hadiths.map Hadith.number = [k.number] := by
    intro q r texts k hr hreads hfirst hcut
    have hanswer := isAnswer_iff.mp ((hr.answer _).mpr rfl)
    rw [hreads.answerFrom_of_ok hfetched] at hanswer
    rw [Option.some.inj (Except.ok.inj hanswer), results, arrange, hfirst, List.mergeSort_singleton]
    rw [List.take_of_length_le (Nat.one_le_iff_ne_zero.mpr hcut), List.map_singleton]
  rcases refined_adds_no_text twiceInEdition hreads hreads' hpart with
    ⟨slug, cause, hslug, herror, -⟩ | ⟨r, r', hr, hr', htotal, htexts⟩
  · cases hfetched slug cause hslug herror
  · have hfound : textsIn twiceInEdition ["ara-bukhari"] q.topic = {"من صام رمضان"} := by
      decide +kernel
    have hfound' : textsIn twiceInEdition ["ara-bukhari"] q'.topic = {"من صام رمضان"} := by
      decide +kernel
    rw [hfound] at hr
    rw [hfound'] at hr'
    have hlimit : r.total ≤ q.cut := by
      rw [hr.total]
      decide
    use r, r', hr, hr', htotal, htexts hlimit
    constructor
    · apply hnumbers (k := fasting "Bukhari" "5" "من صام رمضان") hr hreads (by decide +kernel)
      decide
    · apply hnumbers
        (k := { fasting "Bukhari" "9" " من صام رمضان " with chapterName := "Fasting at home" })
        hr' hreads' (by decide +kernel)
      decide

end HadithService.Search
