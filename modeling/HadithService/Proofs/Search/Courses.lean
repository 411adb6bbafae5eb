import HadithService.Proofs.Editions.Absent
import HadithService.Proofs.Editions.Apart
import HadithService.Search.Courses

/-!
# What stays between jobs

Jobs that are done one after the other leave each other nothing but the cache: between two of them no
load is under way and no lock is on the table (`Resting.afterAll`).  An edition that is not in the
cache stays away as long as no job reports that it has got it (`lacks_of_finishAll`).
-/

namespace HadithService.Search

variable {s t u : Loading} {a : Course} {courses rest : List Course} {reports : List Report}
  {slug : String} {since : Instant}

/-- The editions of a job are different. -/
theorem Job.nodup_slugs (job : Job) :
  job.slugs.Nodup
  := by
  cases job with
  | load slug => apply List.nodup_singleton
  | search q =>
    rw [Job.slugs]
    cases q.plan with
    | nothing => apply List.nodup_nil
    | whole slug => apply List.nodup_singleton
    | within slug topic => apply List.nodup_singleton
    | everywhere topic => exact (by decide : Collection.topicEditions.Nodup)

theorem Course.follow_eq_some_iff :
  a.follow s = some t ↔
    (∀ step ∈ a.steps, step.2.load?.isSome = true) ∧ (a.job.begun s).run a.steps = some t
  := by
  rw [Course.follow, ← List.all_eq_true]
  split
  · rename_i hall
    rw [and_iff_right hall]
  · rename_i hall
    constructor
    · nofun
    · rintro ⟨hsteps, -⟩
      cases hall hsteps

theorem Course.finish_eq_some_iff :
  a.finish s = some t ↔ a.follow s = some t ∧ t.isSettled = true
  := Option.filter_eq_some_iff

theorem finishAll_cons_eq_some_iff :
  finishAll s (a :: rest) = some (reports, u) ↔
    ∃ t later, a.finish s = some t ∧ finishAll t.settled rest = some (later, u) ∧
      reports = .of t :: later
  := by
  simp only [finishAll, Option.bind_eq_bind, Option.bind_eq_some_iff, Option.pure_def,
    Option.some.injEq, Prod.exists, Prod.mk.injEq]
  constructor
  · rintro ⟨t, hfinish, later, v, hrest, rfl, rfl⟩
    use t, later
  · rintro ⟨t, later, hfinish, hrest, rfl⟩
    use t, hfinish, later, u

theorem instants_cons (a : Course) (rest : List Course) :
  instants (a :: rest) = a.instants ++ instants rest
  := List.flatMap_cons

/-- What the order of the instants of a last job, and of a first one, says. -/
theorem pairwise_instants_concat {b : Course}
    (h : (instants (a :: rest ++ [b])).Pairwise (· ≤ ·)) :
  (instants rest).Pairwise (· ≤ ·) ∧ b.instants.Pairwise (· ≤ ·) ∧
    ∀ now ∈ a.instants, ∀ later ∈ b.instants, now ≤ later
  := by
  rw [instants, List.flatMap_append, List.flatMap_cons, List.flatMap_singleton,
    List.pairwise_append, List.pairwise_append] at h
  obtain ⟨⟨-, hrest, -⟩, hb, hle⟩ := h
  use hrest, hb
  intro now hnow
  apply hle now (List.mem_append_left _ hnow)

/-! ### Nothing under way -/

/-- Nothing is under way, and an edition is in the cache at most once. -/
structure Resting (s : Loading) : Prop where
  idle : s = .idle s.cache
  distinct : s.cache.Distinct

namespace Resting

theorem empty (lifetime : Duration) (capacity : Nat) :
  Resting (.idle (.empty lifetime capacity))
  where
    idle := rfl
    distinct := EditionCache.distinct_empty lifetime capacity

/-- The loads of a job begin with nothing else under way. -/
theorem begun (h : Resting s) (job : Job) :
  job.begun s = { Loading.idle s.cache with loads := job.slugs.map fun slug => ⟨slug, .begun⟩ }
  := by
  conv_lhs => rw [h.idle]
  rfl

/-- They take steps until they are all done. -/
theorem run_of_finish (h : Resting s) (hfinish : a.finish s = some t) :
  (∀ step ∈ a.steps, step.2.load?.isSome = true) ∧
    Loading.run { Loading.idle s.cache with loads := a.job.slugs.map fun slug => ⟨slug, .begun⟩ }
      a.steps = some t ∧
    t.isSettled = true
  := by
  obtain ⟨hfollow, hsettled⟩ := Course.finish_eq_some_iff.mp hfinish
  obtain ⟨hsteps, hrun⟩ := Course.follow_eq_some_iff.mp hfollow
  rw [h.begun] at hrun
  use hsteps, hrun, hsettled

/-- A job takes at most nine steps for each of its editions, and before it is done one of its loads
can always go on, by itself or with whatever the source answers. -/
theorem goes_on (h : Resting s) (hfollow : a.follow s = some t) :
  a.steps.length ≤ 9 * a.job.slugs.length ∧
    (t.isSettled = false → ∀ now, ∃ i, (t.move now (.advance i)).isSome = true ∨
      ∀ outcome, (t.move now (.answer i outcome)).isSome = true)
  := by
  obtain ⟨hsteps, hrun⟩ := Course.follow_eq_some_iff.mp hfollow
  rw [h.begun] at hrun
  constructor
  · have hle := Loading.length_add_rank_le hsteps hrun
    have hrank : _ = 0 + 9 * a.job.slugs.length :=
      Loading.rank_begin (.idle s.cache) a.job.slugs
    simp only [Loading.idle, List.nil_append] at hrank hle
    omega
  · intro hsettled now
    have horderly := ((Loading.Orderly.idle s.cache).begin a.job.slugs).run hrun
    obtain ⟨i, m, u, hload, hstep, -⟩ := horderly.exists_step (fun _ => .ok []) now hsettled
    use i
    cases m with
    | begin => cases hload
    | advance j =>
      obtain rfl := Option.some.inj hload
      left
      rw [Loading.move_eq_some_iff.mpr hstep]
      rfl
    | answer j outcome =>
      obtain rfl := Option.some.inj hload
      right
      intro outcome
      cases hstep with
      | answer _ hi =>
        rw [Loading.move_eq_some_iff.mpr (.answer outcome hi)]
        rfl

/-- No lock is left when a job is done. -/
theorem table_eq_nil (h : Resting s) (hfinish : a.finish s = some t)
    (htimes : a.instants.Pairwise (· ≤ ·)) :
  t.table = [] ∧ t.cache.Distinct
  := by
  obtain ⟨hsteps, hrun, hsettled⟩ := h.run_of_finish hfinish
  apply Loading.settled_of_apart h.distinct a.job.nodup_slugs hsteps htimes hrun hsettled

theorem settled (h : Resting s) (hfinish : a.finish s = some t)
    (htimes : a.instants.Pairwise (· ≤ ·)) :
  Resting t.settled
  := by
  obtain ⟨htable, hdistinct⟩ := h.table_eq_nil hfinish htimes
  constructor
  · simp only [Loading.settled, htable, List.isEmpty_nil, if_true]
    rfl
  · apply hdistinct

theorem afterAll (h : Resting s) (hrun : finishAll s courses = some (reports, u))
    (htimes : (instants courses).Pairwise (· ≤ ·)) :
  Resting u
  := by
  induction courses generalizing s reports with
  | nil =>
    obtain ⟨-, rfl⟩ := Prod.mk.inj (Option.some.inj hrun)
    apply h
  | cons a rest ih =>
    obtain ⟨t, later, hfinish, hrest, -⟩ := finishAll_cons_eq_some_iff.mp hrun
    rw [instants_cons, List.pairwise_append] at htimes
    apply ih (h.settled hfinish htimes.1) hrest htimes.2.1

end Resting

/-! ### Editions that are not in the cache -/

/-- What a load has got is reported when it is done. -/
theorem mem_outcomes_of_hasGot (hsettled : t.isSettled = true) (h : t.HasGot slug) :
  ∃ hadiths, (slug, .ok hadiths) ∈ (Report.of t).outcomes
  := by
  obtain ⟨i, p, hadiths, hi, hgot⟩ := h
  obtain ⟨outcome, rfl⟩ := Loading.done_of_isSettled hsettled hi
  obtain rfl := Option.some.inj hgot
  use hadiths
  apply List.mem_filterMap.mpr
  use ⟨slug, .done (.ok hadiths)⟩, List.mem_of_getElem? hi
  rfl

theorem lacks_of_finish (h : s.cache.Lacks slug since) (hfinish : a.finish s = some t)
    (hnone : ∀ hadiths, (slug, .ok hadiths) ∉ (Report.of t).outcomes) :
  t.cache.Lacks slug since
  := by
  obtain ⟨hfollow, hsettled⟩ := Course.finish_eq_some_iff.mp hfinish
  obtain ⟨-, hrun⟩ := Course.follow_eq_some_iff.mp hfollow
  apply Loading.lacks_of_run _ hrun
  · intro hgot
    obtain ⟨hadiths, hmem⟩ := mem_outcomes_of_hasGot hsettled hgot
    apply hnone hadiths hmem
  · apply h

/-- An edition that is not in the cache is not put there by jobs that do not report it. -/
theorem lacks_of_finishAll (h : s.cache.Lacks slug since)
    (hrun : finishAll s courses = some (reports, u))
    (hnone : ∀ r ∈ reports, ∀ hadiths, (slug, .ok hadiths) ∉ r.outcomes) :
  u.cache.Lacks slug since
  := by
  induction courses generalizing s reports with
  | nil =>
    obtain ⟨-, rfl⟩ := Prod.mk.inj (Option.some.inj hrun)
    apply h
  | cons a rest ih =>
    obtain ⟨t, later, hfinish, hrest, rfl⟩ := finishAll_cons_eq_some_iff.mp hrun
    obtain ⟨hfirst, hlater⟩ := List.forall_mem_cons.mp hnone
    apply ih _ hrest hlater
    apply lacks_of_finish h hfinish hfirst

end HadithService.Search
