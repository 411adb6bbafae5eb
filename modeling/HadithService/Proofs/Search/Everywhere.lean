import HadithService.Proofs.Search.Answers
import HadithService.Proofs.Search.Arrangement

/-!
# Searches of all collections

A query that names no collection is answered from seven editions, those that cannot be fetched
counting as empty.  Its results depend only on what the editions contain
(`Search.topic_search`): neither on the order in which they are fetched nor on what other searches
have fetched before.
-/

namespace HadithService.Search

variable {source source' : EditionSource} {lifetime : Duration} {capacity : Nat} {q : Query}
  {text topic : String}

/-- The hadiths on a topic in the editions that are there, edition after edition. -/
def onTopic (source : EditionSource) (topic : String) : List Hadith :=
  Collection.topicEditions.flatMap fun slug =>
    (fetchedHadiths (source.edition slug)).filter (isOn topic)

/-- The results of a search of all collections for a topic. -/
def topicResults (source : EditionSource) (topic : String) (limit : Nat) : Results :=
  ⟨(arrange (onTopic source topic)).take limit,
    ((onTopic source topic).map fun h => Text.trim h.arabic).toFinset.card⟩

theorem plan_eq_everywhere (hcollection : given q.collection = none)
    (htext : given q.text = some text) (hnamed : Collection.detect text = none) :
  q.plan = .everywhere (Text.fold text)
  := by
  rw [Query.plan, hcollection, htext]
  simp only [hnamed]

theorem answerFrom_everywhere (hplan : q.plan = .everywhere topic) :
  q.answerFrom source.edition = .ok (some (topicResults source topic q.cut))
  := by
  rw [Query.answerFrom, Query.answer, hplan]
  have hfound : ((Plan.everywhere topic).slugs.map source.edition).flatMap
      (fun e => (fetchedHadiths e).filter (isOn topic)) = onTopic source topic := by
    rw [List.flatMap_map]
    rfl
  simp only [Plan.found, Except.map, hfound, results, topicResults, length_arrange]

theorem onTopic_congr (h : ∀ slug ∈ Collection.topicEditions,
    fetchedHadiths (source'.edition slug) = fetchedHadiths (source.edition slug)) :
  onTopic source' topic = onTopic source topic
  := by
  apply List.flatMap_congr
  intro slug hslug
  rw [h slug hslug]

/-- In a run from a state with nothing asked the loads take at most nine steps each. -/
theorem Inquiries.steps_le_of_idle {cache : EditionCache} {moves : List (Instant × InquiryMove)}
    {s : Inquiries} (hrun : (Inquiries.idle cache).run source moves = some s) :
  (moves.countP fun a => a.2.isStep) ≤ 9 * s.loading.loads.length
  := by
  have hsteps := steps_le hrun
  simp only [Inquiries.idle, Loading.idle, Loading.rank, Loading.stepsOf, List.length_nil]
    at hsteps
  omega

/-- Whether a source differs from another at most in that it has empty editions where that one has
none, as far as they are searched when no collection is named. -/
def FillsIn (source source' : EditionSource) : Prop :=
  ∀ slug ∈ Collection.topicEditions, source'.edition slug = source.edition slug ∨
    (∃ cause, source.edition slug = .error cause) ∧ source'.edition slug = .ok []

theorem FillsIn.onTopic_eq (h : FillsIn source source') (topic : String) :
  onTopic source' topic = onTopic source topic
  := by
  apply onTopic_congr
  intro slug hslug
  rcases h slug hslug with heq | ⟨⟨cause, hnone⟩, hempty⟩
  · rw [heq]
  · rw [hnone, hempty]
    rfl

/-- A query that names no collection never fails.  It is answered with the hadiths on its topic in
the editions that are there, edition after edition, of which the first of every text are kept,
ordered by number and cut to the limit, and with the number of different texts.  It gets this
answer in whatever order the loads take their steps and the source replies, those of other searches
in between, and it does get it, since the loads run out of steps and can go on as long as the
answer is missing.  Results under a smaller limit are the first of those under a greater one, and
an edition that is not there counts as one with no hadiths. -/
theorem topic_search (source : EditionSource) (lifetime : Duration) (capacity : Nat) (q : Query)
    (text : String) (hcollection : given q.collection = none) (htext : given q.text = some text)
    (hnamed : Collection.detect text = none) :
  let found := onTopic source (Text.fold text)
  let total := (found.map fun h => Text.trim h.arabic).toFinset.card
  let answer (limit : Nat) : Except Unavailable (Option Results) :=
    .ok (some ⟨(arrange found).take limit, total⟩)
  fresh source lifetime capacity q = answer q.cut ∧
    (∀ moves s, (Inquiries.idle (.empty lifetime capacity)).run source moves = some s →
      (moves.countP fun a => a.2.isStep) ≤ 9 * s.loading.loads.length ∧
      ∀ a ∈ s.asked, a.query = q →
        (s.answer? a = none ∨ s.answer? a = some (answer q.cut)) ∧
        ∀ now, (∀ m, m.isStep = true → s.move source now m = none) →
          s.answer? a = some (answer q.cut)) ∧
    (∀ few many : Nat, few ≤ many →
      ∃ r r' : Results,
        fresh source lifetime capacity { q with limit := some few } = .ok (some r) ∧
        fresh source lifetime capacity { q with limit := some many } = .ok (some r') ∧
        r.hadiths <+: r'.hadiths ∧ r.total = r'.total) ∧
    ∀ source', FillsIn source source' →
      fresh source' lifetime capacity q = fresh source lifetime capacity q
  := by
  intro found total answer
  have hfresh : ∀ (source : EditionSource) (limit : Option Nat),
      fresh source lifetime capacity { q with limit := limit }
        = .ok (some (topicResults source (Text.fold text) (limit.getD defaultLimit))) := by
    intro source limit
    have hplan : { q with limit := limit : Query }.plan = .everywhere (Text.fold text) :=
      plan_eq_everywhere hcollection htext hnamed
    rw [fresh_eq, answerFrom_everywhere hplan]
    rfl
  constructor
  · apply hfresh source q.limit
  constructor
  · intro moves s hrun
    have hempty : (EditionCache.empty lifetime capacity).Faithful source.edition :=
      EditionCache.Faithful.empty lifetime capacity
    have hsound := (Inquiries.Sound.idle hempty).run hrun
    use Inquiries.steps_le_of_idle hrun
    intro a ha hquery
    have hanswer : ∀ given, s.answer? a = some given → given = answer q.cut := by
      intro given hgiven
      rw [hsound.answer_eq ha hgiven, hquery, ← fresh_eq source lifetime capacity]
      apply hfresh source q.limit
    constructor
    · cases hgiven : s.answer? a with
      | none =>
        left
        rfl
      | some given =>
        right
        rw [hanswer given hgiven]
    · intro now hstuck
      obtain ⟨given, hgiven⟩ := Option.isSome_iff_exists.mp (hsound.answer?_of_stuck a hstuck)
      rw [hgiven, hanswer given hgiven]
  constructor
  · intro few many hle
    use topicResults source (Text.fold text) few, topicResults source (Text.fold text) many
    use hfresh source (some few), hfresh source (some many), List.take_prefix_take_left hle
    rfl
  · intro source' hfill
    apply (hfresh source' q.limit).trans
    rw [topicResults, hfill.onTopic_eq]
    apply (hfresh source q.limit).symm

/-- A hadith about fasting. -/
def fasting (collection number arabic : String) : Hadith where
  number := number
  collection := collection
  bookName := ""
  chapterName := "Fasting"
  arabic := arabic
  english := none
  grade := none
  narrator := none
  source := ""

/-- A source that has two of the editions.  They have a text in common, and one of the hadiths is not
about fasting. -/
def twoEditions : EditionSource := fun slug =>
  if slug = "ara-muslim" then
    ⟨0, .ok [fasting "Muslim" "3" "من صام رمضان", fasting "Muslim" "2" "من لم يدع قول الزور",
      fasting "Muslim" "9" "الصيام جنة"]⟩
  else if slug = "ara-bukhari" then
    ⟨2, .ok [fasting "Bukhari" "5" " من صام رمضان ",
      { fasting "Bukhari" "1" "إنما الأعمال بالنيات" with chapterName := "Revelation" }]⟩
  else ⟨1, .error (.status 404)⟩

/-- One text is not on the topic, one comes twice, the others are put into order, and the limit cuts
off the last one. -/
theorem topic_search_two :
  fresh twoEditions 60 1 ⟨some " FASTING ", some " ", some 2⟩
    = .ok (some
        ⟨[fasting "Muslim" "2" "من لم يدع قول الزور", fasting "Bukhari" "5" " من صام رمضان "], 3⟩)
  := by
  have hanswer := (topic_search twoEditions 60 1 ⟨some " FASTING ", some " ", some 2⟩ "FASTING"
    (by decide +kernel) (by decide +kernel) (by decide +kernel)).1
  have hfound : arrange (onTopic twoEditions (Text.fold "FASTING"))
      = [fasting "Muslim" "2" "من لم يدع قول الزور", fasting "Bukhari" "5" " من صام رمضان ",
          fasting "Muslim" "9" "الصيام جنة"] := by
    apply arrange_eq_of_perm
    · decide +kernel
    · decide +kernel
  have htotal : ((onTopic twoEditions (Text.fold "FASTING")).map
      fun h => Text.trim h.arabic).toFinset.card = 3 := by
    decide +kernel
  rw [hanswer, hfound, htotal]
  rfl

end HadithService.Search
