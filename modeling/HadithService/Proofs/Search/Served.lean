import HadithService.Proofs.Collection
import HadithService.Proofs.Search.Answers
import HadithService.Proofs.Search.Arrangement
import HadithService.Search.Changing

/-!
# Hadiths that are served

Whatever an edition is like, the hadiths that it becomes have a text that is not too short, a
translation exactly if the edition is not in Arabic, and nothing blank where something is expected
(`Entry.isServed`).  No search asks for a blank identifier, so all this holds of whatever is in the
cache and of all results, however the source changes (`Search.serves_hadiths`).
-/

namespace HadithService

variable {slug : String} {h : Hadith}

/-! ### Hadiths of editions -/

/-- A hadith as it is served when it was loaded under an identifier. -/
structure Hadith.IsServed (slug : String) (h : Hadith) : Prop where
  long : 10 < (Text.trim h.arabic).length
  untranslated : "ara-".toList <+: slug.toList → h.english = none
  translated : ¬ "ara-".toList <+: slug.toList → h.english = some h.arabic
  grade : ∀ grade, h.grade = some grade → Text.isBlankText grade = false
  narrator : ∀ narrator, h.narrator = some narrator → Text.isBlankText narrator = false
  collection : Text.isBlankText h.collection = false

theorem Edition.not_blank_of_unlessBlank {s : Option String} {t : String}
    (h : unlessBlank s = some t) :
  Text.isBlankText t = false
  := by
  obtain ⟨u, -, hu⟩ := Option.bind_eq_some_iff.mp h
  rw [Text.unlessBlank] at hu
  split at hu
  · cases hu
  · rename_i hblank
    rw [← Option.some.inj hu]
    apply Bool.eq_false_iff.mpr hblank

theorem Edition.not_blank_of_either {s s' : Option String} {t : String}
    (h : (unlessBlank s <|> unlessBlank s') = some t) :
  Text.isBlankText t = false
  := by
  cases hs : unlessBlank s with
  | none =>
    rw [hs] at h
    apply not_blank_of_unlessBlank h
  | some u =>
    rw [hs] at h
    apply not_blank_of_unlessBlank (hs.trans h)

theorem Edition.collection_not_blank (e : Edition) (hslug : Text.isBlankText slug = false) :
  Text.isBlankText (e.collection slug) = false
  := by
  rw [Edition.collection]
  cases hname : unlessBlank (e.head.name <|> e.collectionName) with
  | none => apply hslug
  | some name => apply not_blank_of_unlessBlank hname

/-- The hadith of an entry is as it is served, unless the identifier is blank. -/
theorem Entry.isServed {e : Edition} {r : Entry} (hslug : Text.isBlankText slug = false)
    (hr : r.hadith? e slug = some h) :
  h.IsServed slug
  := by
  rw [Entry.hadith?] at hr
  split at hr
  · cases hr
  · rename_i text hbody
    split at hr
    · cases hr
    · rename_i hlength
      obtain rfl := Option.some.inj hr
      have harabic : Edition.isArabic slug = true ↔ "ara-".toList <+: slug.toList :=
        List.isPrefixOf_iff_prefix
      constructor
      case long =>
        rw [Text.trim, String.length_ofList]
        apply Nat.lt_of_not_le hlength
      case untranslated =>
        intro hslug
        apply if_pos (harabic.mpr hslug)
      case translated =>
        intro hslug
        apply if_neg fun h => hslug (harabic.mp h)
      case grade =>
        intro grade hgrade
        apply Edition.not_blank_of_unlessBlank hgrade
      case narrator =>
        intro narrator hnarrator
        apply Edition.not_blank_of_either hnarrator
      case collection => apply e.collection_not_blank hslug

/-- All hadiths that were fetched are as they are served. -/
def Fetched.IsServed (slug : String) (outcome : Fetched) : Prop :=
  ∀ hadiths, outcome = .ok hadiths → ∀ h ∈ hadiths, h.IsServed slug

theorem Fetched.isServed_ofPublication (hslug : Text.isBlankText slug = false) (p : Publication) :
  IsServed slug (.ofPublication slug p)
  := by
  intro hadiths hok h hh
  cases p with
  | error e => cases hok
  | ok e =>
    obtain rfl := Except.ok.inj hok
    obtain ⟨r, -, hr⟩ := List.mem_filterMap.mp hh
    apply Entry.isServed hslug hr

/-- All hadiths in the cache are as they are served. -/
def EditionCache.IsServed (c : EditionCache) : Prop :=
  ∀ e ∈ c.editions, ∀ h ∈ e.hadiths, h.IsServed e.slug

theorem EditionCache.Vouched.isServed {c : EditionCache} (hc : c.Vouched Fetched.IsServed) :
  c.IsServed
  := by
  intro e he h hh
  apply hc e he e.hadiths rfl h hh

/-! ### Identifiers that are asked for -/

namespace Collection

theorem not_blank_of_mem {a : String × String} (ha : a ∈ aliases) :
  Text.isBlankText a.2 = false
  := by
  have hall : ∀ a ∈ aliases, Text.isBlankText a.2 = false := by decide
  apply hall a ha

theorem detect_not_blank {s : String} (h : detect s = some slug) :
  Text.isBlankText slug = false
  := by
  obtain ⟨a, ha, rfl⟩ := Option.map_eq_some_iff.mp h
  apply not_blank_of_mem (List.mem_of_find?_eq_some ha)

theorem resolve_not_blank {name : String} (hname : Text.isBlankText name = false) :
  Text.isBlankText (resolve name) = false
  := by
  rw [resolve]
  cases hlookup : lookup name with
  | none =>
    rw [Option.getD_none, Bool.eq_false_iff, ne_eq, Text.isBlankText_iff, Text.trim_trim,
      ← Text.isBlankText_iff, hname]
    decide
  | some slug =>
    obtain ⟨a, ha, -, rfl⟩ := exists_of_lookup hlookup
    apply not_blank_of_mem ha

end Collection

namespace Search

variable {q : Query} {r : Results} {editions : List Fetched} {hadiths : List Hadith}

theorem not_blank_of_given {s : Option String} {t : String} (hs : given s = some t) :
  Text.isBlankText t = false
  := by
  obtain ⟨u, hu, rfl⟩ := Option.map_eq_some_iff.mp hs
  have hblank : Text.isBlankText u = false := Edition.not_blank_of_unlessBlank hu
  rw [Bool.eq_false_iff, ne_eq, Text.isBlankText_iff, Text.trim_trim, ← Text.isBlankText_iff, hblank]
  decide

/-- No query asks for a blank identifier. -/
theorem not_blank_of_mem_slugs (h : slug ∈ q.plan.slugs) :
  Text.isBlankText slug = false
  := by
  rw [Query.plan] at h
  split at h
  · cases h
  · rename_i name hname _
    rw [List.mem_singleton.mp h]
    apply Collection.resolve_not_blank (not_blank_of_given hname)
  · rename_i name text hname _
    rw [List.mem_singleton.mp h]
    apply Collection.resolve_not_blank (not_blank_of_given hname)
  · split at h
    · rename_i detected hdetected
      rw [List.mem_singleton.mp h]
      apply Collection.detect_not_blank hdetected
    · have hall : ∀ slug ∈ Collection.topicEditions, Text.isBlankText slug = false := by decide
      apply hall slug h

theorem isServed_of_planned (published : String → Publication) (rounds : String → Nat)
    (hslug : slug ∈ q.plan.slugs) :
  Fetched.IsServed slug ((EditionSource.ofPublications published rounds).edition slug)
  := Fetched.isServed_ofPublication (not_blank_of_mem_slugs hslug) (published slug)

/-! ### Results -/

/-- The results of a query as they are served: every hadith as it was loaded for the query, and no
two with the same text. -/
structure Query.IsServed (q : Query) (r : Results) : Prop where
  hadiths : ∀ h ∈ r.hadiths, ∃ slug ∈ q.plan.slugs, h.IsServed slug
  distinct : (r.hadiths.map fun h => Text.trim h.arabic).Nodup

theorem unseen_sublist (seen : List String) (hadiths : List Hadith) :
  (unseen seen hadiths).Sublist hadiths
  := by
  induction hadiths generalizing seen with
  | nil => apply List.Sublist.refl
  | cons h hadiths ih =>
    rw [unseen]
    split
    · apply (ih seen).cons
    · apply (ih _).cons_cons

theorem mem_of_mem_results {limit : Nat} (hh : h ∈ (results limit hadiths).hadiths) :
  h ∈ hadiths
  := by
  have hmem : h ∈ arrange hadiths := List.mem_of_mem_take hh
  rw [arrange, List.mem_mergeSort] at hmem
  apply (unseen_sublist [] hadiths).subset hmem

theorem nodup_keys_results (limit : Nat) (hadiths : List Hadith) :
  ((results limit hadiths).hadiths.map fun h => Text.trim h.arabic).Nodup
  := by
  apply List.Nodup.sublist _ (nodup_keys_arrange hadiths)
  apply (List.take_sublist limit _).map

/-- A plan finds hadiths only in the editions that were fetched for it. -/
theorem Plan.mem_found {p : Plan} (hfound : p.found editions = .ok hadiths) (hh : h ∈ hadiths) :
  ∃ fetched, .ok fetched ∈ editions ∧ h ∈ fetched
  := by
  have hnamed : ∀ {slug hadiths}, named slug editions = .ok hadiths → .ok hadiths ∈ editions := by
    intro slug hadiths hok
    unfold named at hok
    split at hok
    · rw [← Except.ok.inj hok]
      apply List.mem_cons_self
    · cases hok
    · cases hok
  cases p with
  | nothing =>
    obtain rfl := Except.ok.inj hfound
    cases hh
  | whole slug => use hadiths, hnamed hfound
  | within slug topic =>
    cases hok : named slug editions with
    | error e =>
      rw [found, hok] at hfound
      cases hfound
    | ok fetched =>
      rw [found, hok] at hfound
      obtain rfl := Except.ok.inj hfound
      use fetched, hnamed hok, List.mem_of_mem_filter hh
  | everywhere topic =>
    obtain rfl := Except.ok.inj hfound
    obtain ⟨outcome, houtcome, hh⟩ := List.mem_flatMap.mp hh
    cases outcome with
    | error e => cases hh
    | ok fetched => use fetched, houtcome, List.mem_of_mem_filter hh

theorem exists_found (hanswer : q.answer editions = .ok (some r)) :
  ∃ hadiths, q.plan.found editions = .ok hadiths ∧ r = results q.cut hadiths
  := by
  rw [Query.answer] at hanswer
  split at hanswer
  · cases hanswer
  · cases hfound : q.plan.found editions with
    | error e =>
      rw [hfound] at hanswer
      cases hanswer
    | ok hadiths =>
      rw [hfound] at hanswer
      use hadiths, rfl
      apply (Option.some.inj (Except.ok.inj hanswer)).symm

theorem exists_of_mem_right {Q : String → Fetched → Prop} {slugs : List String} {outcome : Fetched}
    (h : List.Forall₂ Q slugs editions) (houtcome : outcome ∈ editions) :
  ∃ slug ∈ slugs, Q slug outcome
  := by
  induction h with
  | nil => cases houtcome
  | @cons slug outcome' slugs editions hq _ ih =>
    rcases List.mem_cons.mp houtcome with rfl | houtcome
    · use slug, List.mem_cons_self
    · obtain ⟨slug', hslug, hq⟩ := ih houtcome
      use slug', List.mem_cons_of_mem slug hslug

/-- Results from editions as they are served are as they are served. -/
theorem isServed_of_answer (heditions : List.Forall₂ Fetched.IsServed q.plan.slugs editions)
    (hanswer : q.answer editions = .ok (some r)) :
  q.IsServed r
  := by
  obtain ⟨hadiths, hfound, rfl⟩ := exists_found hanswer
  constructor
  case hadiths =>
    intro h hh
    obtain ⟨fetched, hfetched, hh⟩ := Plan.mem_found hfound (mem_of_mem_results hh)
    obtain ⟨slug, hslug, hserved⟩ := exists_of_mem_right heditions hfetched
    exact ⟨slug, hslug, hserved fetched rfl h hh⟩
  case distinct => apply nodup_keys_results

/-! ### Searches one after the other -/

theorem Occasion.vouched {store : EditionStore} (h : store.Vouched Fetched.IsServed)
    (o : Occasion) :
  (o.store store).Vouched Fetched.IsServed
  := (h.wait o.now).loadAll fun _ hslug => isServed_of_planned o.published o.rounds hslug

theorem vouched_storeAfter (lifetime : Duration) (capacity : Nat) (occasions : List Occasion) :
  (storeAfter (.empty lifetime capacity) occasions).Vouched Fetched.IsServed
  := by
  have hrun : ∀ store : EditionStore, store.Vouched Fetched.IsServed →
      (storeAfter store occasions).Vouched Fetched.IsServed := by
    induction occasions with
    | nil =>
      intro store h
      apply h
    | cons o occasions ih =>
      intro store h
      apply ih (o.store store) (o.vouched h)
  apply hrun
  apply EditionStore.Vouched.empty

theorem Occasion.isServed {store : EditionStore} (h : store.Vouched Fetched.IsServed)
    (o : Occasion) (hanswer : o.answer store = .ok (some r)) :
  o.query.IsServed r
  := by
  have hsource : ∀ slug ∈ o.query.plan.slugs,
      Fetched.IsServed slug ((EditionSource.ofPublications o.published o.rounds).edition slug) :=
    fun _ hslug => isServed_of_planned o.published o.rounds hslug
  apply isServed_of_answer ((h.wait o.now).loadAll_fst hsource) hanswer

/-! ### Searches at the same time -/

namespace Inquiries

variable {s t : Inquiries} {now : Instant} {m : InquiryMove}

/-- Every search finds its loads, these are of editions that a query asks for, and nothing is there
but hadiths as they are served. -/
structure Serves (s : Inquiries) : Prop where
  placed : s.Placed
  planned : ∀ l ∈ s.loading.loads, ∃ q : Query, l.slug ∈ q.plan.slugs
  vouched : s.loading.Vouched Fetched.IsServed

namespace Serves

theorem idle (lifetime : Duration) (capacity : Nat) :
  (idle (.empty lifetime capacity)).Serves
  where
    placed := Placed.idle _
    planned := by simp [Inquiries.idle, Loading.idle]
    vouched := Loading.Vouched.idle (EditionCache.Vouched.empty lifetime capacity)

theorem begun (h : s.Serves) (q : Query) :
  (s.begun q).Serves
  where
    placed := h.placed.begun q
    planned := by
      intro l hl
      rcases List.mem_append.mp hl with hl | hl
      · apply h.planned l hl
      · obtain ⟨slug, hslug, rfl⟩ := List.mem_map.mp hl
        use q
    vouched := h.vouched.begin q.plan.slugs

theorem swept (h : s.Serves) (now : Instant) :
  (s.swept now).Serves
  where
    placed := h.placed
    planned := h.planned
    vouched := { h.vouched with cache := h.vouched.cache.prune now }

theorem step (h : s.Serves) {i : Nat} {m' : Move} {u : Loading} {published : String → Publication}
    (hload : m'.load? = some i) (hstep : Loading.Step s.loading now m' u)
    (htrue : Loading.IsTrue (EditionSource.atOnce published).edition s.loading m') :
  Serves { s with loading := u }
  := by
  have hslugs := hstep.slugs_eq hload
  constructor
  case placed => apply h.placed.of_slugs_eq hslugs
  case planned =>
    intro l hl
    have hmem : l.slug ∈ s.loading.loads.map Load.slug := hslugs ▸ List.mem_map_of_mem hl
    obtain ⟨l', hl', heq⟩ := List.mem_map.mp hmem
    rw [← heq]
    apply h.planned l' hl'
  case vouched =>
    apply h.vouched.step hstep
    intro j outcome hm l hl
    obtain ⟨q, hq⟩ := h.planned l (List.mem_of_getElem? hl)
    rw [htrue j outcome hm l hl]
    apply isServed_of_planned published _ hq

theorem move (h : s.Serves) {published : String → Publication}
    (hmove : s.move (.atOnce published) now m = some t) :
  t.Serves
  := by
  rcases move_cases hmove with ⟨q, -, rfl⟩ | ⟨-, rfl⟩ | ⟨i, m', u, -, hload, hstep, htrue, rfl⟩
  · apply h.begun q
  · apply h.swept now
  · apply h.step hload hstep htrue

theorem run (h : s.Serves) {moves : List (Instant × (String → Publication) × InquiryMove)}
    (hrun : s.runThrough moves = some t) :
  t.Serves
  := by
  induction moves generalizing s with
  | nil =>
    obtain rfl := Option.some.inj hrun
    apply h
  | cons a moves ih =>
    obtain ⟨now, published, m⟩ := a
    obtain ⟨u, hu, hrun⟩ := Option.bind_eq_some_iff.mp hrun
    apply ih (h.move hu) hrun

theorem isServed (h : s.Serves) {inquiry : Inquiry} (ha : inquiry ∈ s.asked)
    (hanswer : s.answer? inquiry = some (.ok (some r))) :
  inquiry.query.IsServed r
  := by
  obtain ⟨editions, heditions, heq⟩ := h.placed.exists_editions h.vouched ha hanswer
  apply isServed_of_answer heditions heq.symm

end Serves

end Inquiries

/-- Whatever is published, and however this changes, the cache holds only hadiths as they are served
after searches that are made one after the other and while searches are made at the same time, and
so do the results of every search. -/
theorem serves_hadiths (lifetime : Duration) (capacity : Nat) :
  (∀ occasions,
    let store := storeAfter (.empty lifetime capacity) occasions
    store.cache.IsServed ∧
      ∀ o : Occasion, ∀ r, o.answer store = .ok (some r) → o.query.IsServed r) ∧
    ∀ moves s, (Inquiries.idle (.empty lifetime capacity)).runThrough moves = some s →
      s.loading.cache.IsServed ∧
        ∀ a ∈ s.asked, ∀ r, s.answer? a = some (.ok (some r)) → a.query.IsServed r
  := by
  constructor
  · intro occasions store
    have hstore : store.Vouched Fetched.IsServed := vouched_storeAfter lifetime capacity occasions
    use hstore.cache.isServed
    intro o r hanswer
    apply o.isServed hstore hanswer
  · intro moves s hrun
    have hserves := (Inquiries.Serves.idle lifetime capacity).run hrun
    use hserves.vouched.cache.isServed
    intro a ha r hanswer
    apply hserves.isServed ha hanswer

/-- An entry of an edition in English. -/
def intention : Entry where
  hadithNumber := some (.text " 1 ")
  number := none
  text := some " "
  english := some " Actions are by intentions. "
  translation := none
  grades := [" "]
  grade := some "Sahih"
  reference := none
  book := none
  bookName := none
  chapter := none
  chapterName := none
  narrator := some ""
  reporter := some "Umar"

/-- The hadith of the entry. -/
def intended : Hadith where
  number := "1"
  collection := "eng-bukhari"
  bookName := ""
  chapterName := ""
  arabic := " Actions are by intentions. "
  english := some " Actions are by intentions. "
  grade := none
  narrator := some "Umar"
  source := Edition.sourceName

/-- A search for an edition in English that has the entry twice and no name. -/
def inEnglish : Occasion where
  now := 0
  published := fun _ => .ok ⟨⟨some " ", []⟩, some "Bukhari", [intention, intention]⟩
  rounds := fun _ => 2
  query := ⟨none, some " eng-bukhari ", none⟩

theorem serves_hadiths_in_english :
  inEnglish.answer (.empty 60 1) = .ok (some (results defaultLimit [intended, intended])) ∧
    inEnglish.query.IsServed (results defaultLimit [intended, intended])
  := by
  have hplan : inEnglish.query.plan = .whole "eng-bukhari" := by decide +kernel
  have hanswer : inEnglish.answer (.empty 60 1)
      = .ok (some (results defaultLimit [intended, intended])) := by
    rw [Occasion.answer, search_fst ((EditionStore.Sound.empty _ 60 1).wait _), Query.answerFrom,
      Query.answer, hplan]
    have hfound : (Plan.whole "eng-bukhari").found ((Plan.whole "eng-bukhari").slugs.map
        (EditionSource.ofPublications inEnglish.published inEnglish.rounds).edition)
        = .ok [intended, intended] := by
      decide +kernel
    simp only [hfound]
    rfl
  use hanswer
  apply ((serves_hadiths 60 1).1 []).2 inEnglish _ hanswer

end Search

end HadithService
