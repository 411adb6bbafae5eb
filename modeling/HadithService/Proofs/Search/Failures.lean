import HadithService.Proofs.Editions.Alone
import HadithService.Proofs.Search.Courses

/-!
# Loads that fail

A load whose call of the source fails tells the failure and changes nothing but the counts of the
cache.  The next load of the edition calls the source again, and all other jobs take the courses they
would have taken without it (`failed_load_leaves_no_trace`).
-/

namespace HadithService.Search

variable {s t u : Loading} {a : Course} {courses : List Course} {reports : List Report}
  {rest : List (Course × Report)} {slug : String} {cause : SourceError}

/-! ### One load -/

/-- A load calls the source once and tells what the source has answered.  If that is an edition, it
is in the cache in the end. -/
structure Asks (slug : String) (a : Course) (outcome : Fetched) (t : Loading) : Prop where
  report : Report.of t = ⟨[(slug, outcome)], [slug]⟩
  answer : outcome ∈ a.answers
  cached : ∀ hadiths, outcome = .ok hadiths →
    ∃ now ∈ a.instants, t.cache.find? slug = some ⟨slug, hadiths, now⟩

/-- When nothing else is under way, a load finds its edition at its first look or asks the source. -/
theorem Resting.load_cases (h : Resting s) (hjob : a.job = .load slug) (hfinish : a.finish s = some t)
    (htimes : a.instants.Pairwise (· ≤ ·)) :
  ∃ first ∈ a.instants.head?,
    (∃ hadiths, s.cache.peek slug first = some hadiths ∧
      t.loads = [⟨slug, .done (.ok hadiths)⟩]) ∨
    (s.cache.peek slug first = none ∧
      ∃ outcome, t.loads = [⟨slug, .done outcome⟩] ∧
        Loading.Brought s.cache slug a.steps outcome t)
  := by
  obtain ⟨hsteps, hrun, hsettled⟩ := h.run_of_finish hfinish
  rw [hjob] at hrun
  obtain ⟨first, hfirst, ⟨hadiths, hpeek, rfl⟩ | hbrought⟩ :=
    Loading.alone_cases hsteps htimes hrun hsettled
  · use first, hfirst
    left
    use hadiths, hpeek
  · use first, hfirst
    right
    apply hbrought

/-- An edition that a load has brought is in the cache. -/
theorem find?_of_brought {hadiths : List Hadith} (h : Resting s)
    (hbrought : Loading.Brought s.cache slug a.steps (.ok hadiths) t) :
  ∃ now ∈ a.instants, t.cache.find? slug = some ⟨slug, hadiths, now⟩
  := by
  obtain ⟨now, hnow, hat⟩ := hbrought.isAt
  obtain ⟨hits, misses, hcache⟩ := hat.cache
  use now, hnow
  rw [hcache]
  apply (h.distinct.insert).find? (EditionCache.mem_insert_self s.cache slug hadiths now)

/-- A load that brings nothing changes the counts only. -/
theorem settled_of_brought (h : Resting s) (htable : t.table = [])
    (hbrought : Loading.Brought s.cache slug a.steps (.error cause) t) :
  ∃ hits misses, t.settled = s.recount hits misses
  := by
  obtain ⟨now, hnow, hat⟩ := hbrought.isAt
  obtain ⟨hits, misses, hcache⟩ := hat.cache
  use hits, misses
  conv_rhs => rw [h.idle]
  simp only [Loading.settled, htable, hcache]
  rfl

/-- A load of an edition that is not in the cache asks the source.  If the source fails, nothing
changes but the counts. -/
theorem Resting.asks (h : Resting s) (hjob : a.job = .load slug) (hfinish : a.finish s = some t)
    (htimes : a.instants.Pairwise (· ≤ ·))
    (hmissing : ∀ now ∈ a.instants.head?, s.cache.peek slug now = none) :
  ∃ outcome, Asks slug a outcome t ∧
    ∀ cause, outcome = .error cause → ∃ hits misses, t.settled = s.recount hits misses
  := by
  obtain ⟨first, hfirst, ⟨hadiths, hpeek, -⟩ | ⟨-, outcome, hloads, hbrought⟩⟩ :=
    h.load_cases hjob hfinish htimes
  · rw [hmissing first hfirst] at hpeek
    cases hpeek
  · use outcome
    constructor
    · constructor
      · obtain ⟨now, -, hat⟩ := hbrought.isAt
        simp only [Report.of, hloads, hat.calls, List.filterMap_cons, List.filterMap_nil,
          Loading.outcome?, Option.map_some]
      · apply hbrought.answer
      · rintro hadiths rfl
        apply find?_of_brought h hbrought
    · rintro cause rfl
      apply settled_of_brought h (h.table_eq_nil hfinish htimes).1 hbrought

/-- A load that reports a failure has not found its edition in the cache. -/
theorem Resting.missing_of_failed (h : Resting s) (hjob : a.job = .load slug)
    (hfinish : a.finish s = some t) (htimes : a.instants.Pairwise (· ≤ ·))
    (hfailed : (Report.of t).outcomes = [(slug, .error cause)]) :
  ∀ now ∈ a.instants.head?, s.cache.peek slug now = none
  := by
  obtain ⟨first, hfirst, ⟨hadiths, -, hloads⟩ | ⟨hpeek, -⟩⟩ := h.load_cases hjob hfinish htimes
  · rw [Report.of, hloads] at hfailed
    cases hfailed
  · intro now hnow
    obtain rfl := Option.some.inj (hfirst.symm.trans hnow)
    apply hpeek

/-! ### Without the loads that have failed -/

/-- Jobs with their reports, and those that remain when loads that have failed are left out. -/
inductive Omits : List (Course × Report) → List (Course × Report) → Prop where
  | nil : Omits [] []
  | keep (done : Course × Report) {all rest : List (Course × Report)} (h : Omits all rest) :
      Omits (done :: all) (done :: rest)
  | drop {a : Course} {r : Report} {slug : String} {cause : SourceError}
      {all rest : List (Course × Report)} (hjob : a.job = .load slug)
      (hfailed : r.outcomes = [(slug, .error cause)]) (h : Omits all rest) :
      Omits ((a, r) :: all) rest

theorem Course.exists_finish_recount (hfinish : a.finish s = some t) (hits misses : UInt64) :
  ∃ hits' misses', a.finish (s.recount hits misses) = some (t.recount hits' misses')
  := by
  obtain ⟨hfollow, hsettled⟩ := Course.finish_eq_some_iff.mp hfinish
  obtain ⟨hsteps, hrun⟩ := Course.follow_eq_some_iff.mp hfollow
  obtain ⟨hits', misses', hrun'⟩ := Loading.exists_run_recount hrun hits misses
  use hits', misses'
  apply Course.finish_eq_some_iff.mpr
  use Course.follow_eq_some_iff.mpr ⟨hsteps, hrun'⟩
  apply hsettled

/-- Whatever the counts of the cache are, the jobs that remain report what they have reported. -/
theorem Resting.exists_finishAll_of_omits (h : Resting s)
    (hrun : finishAll s courses = some (reports, u))
    (htimes : (instants courses).Pairwise (· ≤ ·)) (homits : Omits (courses.zip reports) rest)
    (hits misses : UInt64) :
  ∃ hits' misses', finishAll (s.recount hits misses) (rest.map Prod.fst)
    = some (rest.map Prod.snd, u.recount hits' misses')
  := by
  induction courses generalizing s reports rest hits misses with
  | nil =>
    obtain ⟨rfl, rfl⟩ := Prod.mk.inj (Option.some.inj hrun)
    cases homits
    use hits, misses
    rfl
  | cons a courses ih =>
    obtain ⟨t, later, hfinish, hlater, rfl⟩ := finishAll_cons_eq_some_iff.mp hrun
    rw [instants_cons, List.pairwise_append] at htimes
    obtain ⟨hfirst, htimes, -⟩ := htimes
    have ht := h.settled hfinish hfirst
    rw [List.zip_cons_cons] at homits
    cases homits with
    | @keep _ _ rest homits =>
      obtain ⟨hits', misses', hfinish'⟩ := Course.exists_finish_recount hfinish hits misses
      obtain ⟨hits'', misses'', hrest⟩ := ih ht hlater htimes homits hits' misses'
      use hits'', misses''
      apply finishAll_cons_eq_some_iff.mpr
      exact ⟨t.recount hits' misses', rest.map Prod.snd, hfinish', hrest, rfl⟩
    | drop hjob hfailed homits =>
      -- the failed load has changed the counts only, and these are others anyway
      have hmissing := h.missing_of_failed hjob hfinish hfirst hfailed
      obtain ⟨outcome, hasks, hunchanged⟩ := h.asks hjob hfinish hfirst hmissing
      rw [hasks.report] at hfailed
      obtain ⟨-, rfl⟩ := Prod.mk.inj (List.singleton_inj.mp hfailed)
      obtain ⟨hits', misses', hsame⟩ := hunchanged _ rfl
      have hrest := ih ht hlater htimes homits hits misses
      rw [hsame] at hrest
      apply hrest

/-! ### No trace -/

/-- A load of an edition that is not in the cache, when a failure is all that the source answers. -/
structure Fails (s : Loading) (slug : String) (cause : SourceError) (a : Course) (t : Loading) :
    Prop where
  job : a.job = .load slug
  finish : a.finish s = some t
  missing : ∀ now ∈ a.instants.head?, s.cache.peek slug now = none
  answers : ∀ outcome ∈ a.answers, outcome = .error cause

/-- A load tells its failure, and leaves the cache as it was and no lock of its edition.  As long as
no job gets the edition, the next one that loads it calls the source again, and a load gets and keeps
what the source answers then. -/
structure NoTrace (s : Loading) (slug : String) (cause : SourceError) (a : Course) (t : Loading) :
    Prop where
  report : Report.of t = ⟨[(slug, .error cause)], [slug]⟩
  editions : t.cache.editions = s.cache.editions
  lock : t.lock? slug = none
  again : ∀ (later : List Course) (reports : List Report) (u : Loading) (next : Course) (v : Loading),
    finishAll t.settled later = some (reports, u) →
    (∀ r ∈ reports, ∀ hadiths, (slug, .ok hadiths) ∉ r.outcomes) →
    slug ∈ next.job.slugs → next.finish u = some v →
    (instants (a :: later ++ [next])).Pairwise (· ≤ ·) →
    slug ∈ (Report.of v).calls ∧ (next.job = .load slug → ∃ outcome, Asks slug next outcome v)

/-- A job that loads an edition that is not in the cache calls the source for it. -/
theorem Resting.asks_of_lacks {since : Instant} (h : Resting s) (hlacks : s.cache.Lacks slug since)
    (hslug : slug ∈ a.job.slugs) (hfinish : a.finish s = some t)
    (htimes : (since :: a.instants).Pairwise (· ≤ ·)) :
  slug ∈ (Report.of t).calls ∧ (a.job = .load slug → ∃ outcome, Asks slug a outcome t)
  := by
  obtain ⟨-, hrun, hsettled⟩ := h.run_of_finish hfinish
  obtain ⟨hle, htimes⟩ := List.pairwise_cons.mp htimes
  constructor
  · apply Loading.mem_calls_of_lacks hslug hlacks _ hrun hsettled
    intro step hstep
    apply hle _ (List.mem_map_of_mem hstep)
  · intro hjob
    have hmissing : ∀ now ∈ a.instants.head?, s.cache.peek slug now = none :=
      fun now hnow => (hlacks.later (hle now (List.mem_of_head? hnow))).peek
    obtain ⟨outcome, hasks, -⟩ := h.asks hjob hfinish htimes hmissing
    use outcome

theorem Fails.noTrace {a : Course} (hfails : Fails s slug cause a t) (h : Resting s)
    (htimes : a.instants.Pairwise (· ≤ ·)) :
  NoTrace s slug cause a t
  := by
  obtain ⟨outcome, hasks, hunchanged⟩ := h.asks hfails.job hfails.finish htimes hfails.missing
  obtain rfl := hfails.answers outcome hasks.answer
  obtain ⟨hits, misses, hsame⟩ := hunchanged cause rfl
  have hcache : t.cache = s.cache.recount hits misses := congrArg Loading.cache hsame
  constructor
  · apply hasks.report
  · rw [hcache]
    rfl
  · rw [Loading.lock?, (h.table_eq_nil hfails.finish htimes).1]
    rfl
  · intro later reports u next v hlater hnone hslug hnext htimes'
    obtain ⟨first, hfirst, -⟩ := h.load_cases hfails.job hfails.finish htimes
    have hlacks : s.cache.Lacks slug first := h.distinct.lacks (hfails.missing first hfirst)
    have hlacks' : u.cache.Lacks slug first := by
      apply lacks_of_finishAll _ hlater hnone
      rw [hsame]
      apply hlacks
    obtain ⟨hrest, hnexts, hle⟩ := pairwise_instants_concat htimes'
    apply ((h.settled hfails.finish htimes).afterAll hlater hrest).asks_of_lacks hlacks' hslug hnext
    apply List.pairwise_cons.mpr
    use hle first (List.mem_of_head? hfirst)

/-- Whatever loads and searches have been made one after the other, a load that fails leaves no trace:
jobs come to an end, a load that fails tells its failure and changes nothing, and without such loads
the other jobs would have told the same and called the source for the same editions. -/
theorem failed_load_leaves_no_trace {lifetime : Duration} {capacity : Nat}
    (hrun : finishAll (.idle (.empty lifetime capacity)) courses = some (reports, s))
    (htimes : (instants courses).Pairwise (· ≤ ·)) :
  (∀ (a : Course) (t : Loading), a.follow s = some t → a.steps.length ≤ 9 * a.job.slugs.length ∧
      (t.isSettled = false → ∀ now, ∃ i, (t.move now (.advance i)).isSome = true ∨
        ∀ outcome, (t.move now (.answer i outcome)).isSome = true)) ∧
    (∀ slug cause a t, Fails s slug cause a t → a.instants.Pairwise (· ≤ ·) →
      NoTrace s slug cause a t) ∧
    ∀ rest, Omits (courses.zip reports) rest →
      ∃ u, finishAll (.idle (.empty lifetime capacity)) (rest.map Prod.fst)
          = some (rest.map Prod.snd, u) ∧
        u.cache.editions = s.cache.editions
  := by
  have hempty := Resting.empty lifetime capacity
  have hs := hempty.afterAll hrun htimes
  refine ⟨fun a t hfollow => hs.goes_on hfollow, fun slug cause a t hfails => hfails.noTrace hs, ?_⟩
  intro rest homits
  obtain ⟨hits, misses, hrest⟩ := hempty.exists_finishAll_of_omits hrun htimes homits 0 0
  exact ⟨s.recount hits misses, hrest, rfl⟩

/-- A load that asks the source, one step every nanosecond. -/
def asking (slug : String) (start : Instant) (outcome : Fetched) : Course :=
  ⟨.load slug,
    [(start, .advance 0), (start + 1, .advance 0), (start + 2, .advance 0), (start + 3, .advance 0),
     (start + 4, .advance 0), (start + 5, .answer 0 outcome), (start + 6, .advance 0),
     (start + 7, .advance 0), (start + 8, .advance 0)]⟩

/-- An edition is fetched, and another one fails to be. -/
def halfFailing : List Course :=
  [asking "a" 0 (.ok []), asking "b" 10 (.error .request)]

/-- A cache with room for one edition, which is there. -/
def holding (fetchedAt : Instant) (misses : UInt64) : EditionCache :=
  ⟨60, 1, [⟨"a", [], fetchedAt⟩], 0, misses⟩

/-- What is there when a load of it has failed. -/
def failedEnd : Loading :=
  ⟨holding 6 6, [], [[]], [⟨"a", .done (.error (.status 503))⟩], ["a"]⟩

/-- The edition that is there has expired, and is asked for until it comes. -/
theorem failed_load_leaves_no_trace_expired :
  ∃ reports, finishAll (.idle (.empty 60 1)) halfFailing = some (reports, .idle (holding 6 4)) ∧
    Fails (.idle (holding 6 4)) "a" (.status 503) (asking "a" 100 (.error (.status 503))) failedEnd ∧
    NoTrace (.idle (holding 6 4)) "a" (.status 503) (asking "a" 100 (.error (.status 503)))
      failedEnd ∧
    (∃ reports u v, finishAll failedEnd.settled [asking "a" 200 (.error .request)]
        = some (reports, u) ∧
      (asking "a" 300 (.ok [])).finish u = some v ∧
      ∃ outcome, Asks "a" (asking "a" 300 (.ok [])) outcome v) ∧
    ∃ w, finishAll (.idle (.empty 60 1)) [asking "a" 0 (.ok [])] = some (reports.take 1, w) ∧
      w.cache.editions = [⟨"a", [], 6⟩]
  := by
  have hrun : finishAll (.idle (.empty 60 1)) halfFailing
      = some ([⟨[("a", .ok [])], ["a"]⟩, ⟨[("b", .error .request)], ["b"]⟩],
        .idle (holding 6 4)) := rfl
  obtain ⟨-, hnoTrace, homits⟩ := failed_load_leaves_no_trace hrun (by decide)
  have hfails : Fails (.idle (holding 6 4)) "a" (.status 503)
      (asking "a" 100 (.error (.status 503))) failedEnd := by
    refine ⟨rfl, rfl, ?_, ?_⟩
    · rintro _ ⟨⟩
      rfl
    · rintro _ (_ | ⟨_, ⟨⟩⟩)
      rfl
  have htrace := hnoTrace "a" (.status 503) _ failedEnd hfails (by decide)
  refine ⟨_, hrun, hfails, htrace, ?_, ?_⟩
  · have hlater : finishAll failedEnd.settled [asking "a" 200 (.error .request)]
        = some ([⟨[("a", .error .request)], ["a"]⟩], .idle (holding 6 8)) := rfl
    have hnext : (asking "a" 300 (.ok [])).finish (.idle (holding 6 8))
        = some ⟨holding 306 10, [], [[]], [⟨"a", .done (.ok [])⟩], ["a"]⟩ := rfl
    refine ⟨_, _, _, hlater, hnext, ?_⟩
    refine (htrace.again _ _ _ _ _ hlater ?_ ?_ hnext ?_).2 rfl
    · simp
    · decide
    · decide
  · apply homits [(asking "a" 0 (.ok []), ⟨[("a", .ok [])], ["a"]⟩)]
    exact .keep _ (.drop rfl rfl .nil)

end HadithService.Search
