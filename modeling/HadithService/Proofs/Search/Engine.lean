import HadithService.Proofs.Editions.Store
import HadithService.Proofs.Search.Courses
import HadithService.Search.Engine

/-!
# The courses of the engine

Loads in rounds are loads step by step (`Rounds.exists_leads_settle`).  So whatever a store does to
load the editions of a job is a course of the job (`Search.exists_course_loadAll`), and every store
that an engine comes to is one that courses of its jobs come to
(`Search.exists_courses_afterJobs`).
-/

namespace HadithService

namespace Loading

variable {s t u : Loading} {before after : List (Instant × Move)}

theorem run_append (hbefore : s.run before = some t) (hafter : t.run after = some u) :
  s.run (before ++ after) = some u
  := by
  induction before generalizing s with
  | nil =>
    obtain rfl := Option.some.inj hbefore
    apply hafter
  | cons step before ih =>
    obtain ⟨now, m⟩ := step
    obtain ⟨v, hstep, hbefore⟩ := run_cons_eq_some_iff.mp hbefore
    apply run_cons_eq_some_iff.mpr
    use v, hstep, ih hbefore

end Loading

namespace Rounds

open Loading (Step)

variable {source : EditionSource} {r r' r'' : Rounds} {m : Move} {i : Nat} {slug : String}
  {steps after : List (Instant × Move)}

/-- Rounds come to others by steps of loads, each at an instant between those of the clock. -/
structure Leads (r : Rounds) (steps : List (Instant × Move)) (r' : Rounds) : Prop where
  run : r.loading.run steps = some r'.loading
  loads : ∀ step ∈ steps, step.2.load?.isSome = true
  clock : r.clock ≤ r'.clock
  times : (steps.map Prod.fst).Pairwise (· ≤ ·)
  between : ∀ step ∈ steps, r.clock ≤ step.1 ∧ step.1 ≤ r'.clock

namespace Leads

theorem refl (r : Rounds) (awaited : List (Nat × Nat)) :
  Leads r [] { r with awaited := awaited }
  where
    run := rfl
    loads := nofun
    clock := le_rfl
    times := List.Pairwise.nil
    between := nofun

theorem append (h : Leads r steps r') (h' : Leads r' after r'') :
  Leads r (steps ++ after) r''
  where
    run := Loading.run_append h.run h'.run
    loads := by
      rw [List.forall_mem_append]
      use h.loads, h'.loads
    clock := h.clock.trans h'.clock
    times := by
      rw [List.map_append, List.pairwise_append]
      use h.times, h'.times
      intro now hnow later hlater
      obtain ⟨step, hstep, rfl⟩ := List.mem_map.mp hnow
      obtain ⟨step', hstep', rfl⟩ := List.mem_map.mp hlater
      exact (h.between step hstep).2.trans (h'.between step' hstep').1
    between := by
      intro step hstep
      rcases List.mem_append.mp hstep with hstep | hstep
      · exact ⟨(h.between step hstep).1, (h.between step hstep).2.trans h'.clock⟩
      · exact ⟨h.clock.trans (h'.between step hstep).1, (h'.between step hstep).2⟩

theorem pairwise (h : Leads r steps r') :
  (r.clock :: steps.map Prod.fst ++ [r'.clock]).Pairwise (· ≤ ·)
  := by
  rw [List.cons_append, List.pairwise_cons, List.pairwise_append]
  constructor
  · intro now hnow
    rcases List.mem_append.mp hnow with hnow | hnow
    · obtain ⟨step, hstep, rfl⟩ := List.mem_map.mp hnow
      apply (h.between step hstep).1
    · rw [List.mem_singleton.mp hnow]
      apply h.clock
  · use h.times, List.pairwise_singleton _ _
    intro now hnow later hlater
    obtain ⟨step, hstep, rfl⟩ := List.mem_map.mp hnow
    rw [List.mem_singleton.mp hlater]
    apply (h.between step hstep).2

/-- One step takes one nanosecond. -/
theorem move (hmove : r.move m = some r') (hm : m.load?.isSome = true) :
  Leads r [(r.clock, m)] r'
  := by
  obtain ⟨t, hstep, rfl⟩ := move_eq_some_iff.mp hmove
  constructor
  · apply Loading.run_cons_eq_some_iff.mpr
    use t, hstep
    rfl
  · rintro _ (_ | ⟨_, ⟨⟩⟩)
    apply hm
  · apply Nat.le_succ
  · apply List.pairwise_singleton
  · rintro _ (_ | ⟨_, ⟨⟩⟩)
    use le_rfl, Nat.le_succ _

end Leads

theorem exists_leads_turn (source : EditionSource) (i fuel : Nat) (r : Rounds) :
  ∃ steps, Leads r steps (turn source i fuel r)
  := by
  have hgo : ∀ {fuel : Nat} {r r' : Rounds} {m : Move}, r.move m = some r' → m.load?.isSome = true →
      (∃ steps, Leads r' steps (turn source i fuel r')) →
      ∃ steps, Leads r steps (turn source i fuel r') := by
    rintro fuel r r' m hmove hm ⟨steps, hsteps⟩
    use [(r.clock, m)] ++ steps
    apply (Leads.move hmove hm).append hsteps
  induction fuel generalizing r with
  | zero => exact ⟨[], .refl r r.awaited⟩
  | succ fuel ih =>
    rw [turn]
    cases hcall : r.callOf i with
    | some slug =>
      cases hwait : r.waitOf i (source slug) with
      | zero =>
        simp only [hwait]
        cases hmove : r.move (.answer i (source slug).outcome) with
        | none => exact ⟨[], .refl r r.awaited⟩
        | some r' => exact hgo hmove rfl (ih r')
      | succ n =>
        simp only [hwait]
        exact ⟨[], .refl r _⟩
    | none =>
      cases hmove : r.move (.advance i) with
      | none => exact ⟨[], .refl r r.awaited⟩
      | some r' => exact hgo hmove rfl (ih r')

theorem exists_leads_round (source : EditionSource) (r : Rounds) :
  ∃ steps, Leads r steps (r.round source)
  := by
  rw [round]
  generalize List.range r.loading.loads.length = turns
  induction turns generalizing r with
  | nil => exact ⟨[], .refl r r.awaited⟩
  | cons i turns ih =>
    obtain ⟨steps, hsteps⟩ := exists_leads_turn source i 10 r
    obtain ⟨after, hafter⟩ := ih (turn source i 10 r)
    use steps ++ after
    apply hsteps.append hafter

/-- Rounds are steps of loads. -/
theorem exists_leads_settle (source : EditionSource) (fuel : Nat) (r : Rounds) :
  ∃ steps, Leads r steps (settle source fuel r)
  := by
  induction fuel generalizing r with
  | zero => exact ⟨[], .refl r r.awaited⟩
  | succ fuel ih =>
    rw [settle]
    split
    · exact ⟨[], .refl r r.awaited⟩
    · obtain ⟨steps, hsteps⟩ := exists_leads_round source r
      obtain ⟨after, hafter⟩ := ih (r.round source)
      use steps ++ after
      apply hsteps.append hafter

end Rounds

namespace Search

variable {s t : Loading} {a : Course}

/-- The loads of a job are of its editions. -/
theorem Course.slugs_of_follow (hfollow : a.follow s = some t) :
  t.loads.map Load.slug = a.job.slugs
  := by
  obtain ⟨hsteps, hrun⟩ := Course.follow_eq_some_iff.mp hfollow
  apply Loading.run_induction (P := fun u => u.loads.map Load.slug = a.job.slugs) _ _ hrun
  · intro now m hmem u v hu hstep
    obtain ⟨i, hload⟩ := Option.isSome_iff_exists.mp (hsteps _ hmem)
    rw [hstep.slugs_eq hload, hu]
  · apply Loading.slugs_begun

/-- When all loads are done, each of them is reported. -/
theorem report_of_isSettled (hsettled : t.isSettled = true) :
  Report.of t = ⟨(t.loads.map Load.slug).zip
    (t.loads.map fun l => (Loading.outcome? l).getD (.error .request)), t.calls⟩
  := by
  rw [Report.of, List.zip_map', ← List.filterMap_eq_map']
  congr 1
  apply List.filterMap_congr
  intro l hl
  obtain ⟨outcome, houtcome⟩ := Option.isSome_iff_exists.mp (List.all_eq_true.mp hsettled l hl)
  rw [houtcome]
  rfl

/-- The loads of a job when they have been begun in a store. -/
def Job.rounds (job : Job) (store : EditionStore) : Rounds :=
  ⟨job.begun store.loading, store.clock, []⟩

/-- The loads of a job when they have been carried out in a store. -/
def Job.settle (job : Job) (source : EditionSource) (store : EditionStore) : Rounds :=
  (job.rounds store).settle source (Rounds.enough source (job.rounds store).loading.loads)

theorem Resting.isSettled_settle {store : EditionStore} (h : Resting store.loading)
    (source : EditionSource) (job : Job) :
  (job.settle source store).loading.isSettled = true
  := by
  apply Rounds.isSettled_settle
  · have horderly := (Loading.Orderly.idle store.cache).begin job.slugs
    have hbegun : (job.rounds store).loading = _ := h.begun job
    rw [hbegun]
    apply horderly
  · apply Nat.le_of_lt
    apply Rounds.total_lt_enough

/-- What a store with nothing under way does to load the editions of a job is a course of the job,
from the instant of its clock on until the one to which the clock has come then. -/
theorem exists_course_loadAll {store : EditionStore} (h : Resting store.loading)
    (source : EditionSource) (job : Job) :
  ∃ steps t outcomes calls next,
    store.loadAll source job.slugs = (outcomes, calls, next) ∧
    Course.finish ⟨job, steps⟩ store.loading = some t ∧
    (store.clock :: steps.map Prod.fst ++ [next.clock]).Pairwise (· ≤ ·) ∧
    Report.of t = ⟨job.slugs.zip outcomes, calls⟩ ∧ next.loading = t.settled
  := by
  obtain ⟨steps, hsteps⟩ := Rounds.exists_leads_settle source
    (Rounds.enough source (job.rounds store).loading.loads) (job.rounds store)
  have hsettled := h.isSettled_settle source job
  have hfollow : Course.follow ⟨job, steps⟩ store.loading = some (job.settle source store).loading :=
    Course.follow_eq_some_iff.mpr ⟨hsteps.loads, hsteps.run⟩
  have hfinish := Course.finish_eq_some_iff.mpr ⟨hfollow, hsettled⟩
  have hreport := report_of_isSettled hsettled
  rw [Course.slugs_of_follow hfollow] at hreport
  exact ⟨steps, _, _, _, _, rfl, hfinish, hsteps.pairwise, hreport, rfl⟩

/-- A store after jobs that are done one after the other, each not before its instant, when the source
may be another one for each of them. -/
def afterJobs (store : EditionStore) : List (Instant × EditionSource × Job) → EditionStore
  | [] => store
  | (now, source, job) :: rest => afterJobs ((store.wait now).loadAll source job.slugs).2.2 rest

/-- Whatever store the engine comes to, courses of its jobs come to. -/
theorem exists_courses_afterJobs {store : EditionStore} (h : Resting store.loading)
    (jobs : List (Instant × EditionSource × Job)) :
  ∃ courses reports,
    finishAll store.loading courses = some (reports, (afterJobs store jobs).loading) ∧
    courses.map Course.job = jobs.map (fun j => j.2.2) ∧
    (instants courses).Pairwise (· ≤ ·) ∧ ∀ now ∈ instants courses, store.clock ≤ now
  := by
  induction jobs generalizing store with
  | nil => exact ⟨[], [], rfl, rfl, List.Pairwise.nil, nofun⟩
  | cons j rest ih =>
    obtain ⟨now, source, job⟩ := j
    have hwait : Resting (store.wait now).loading := h
    obtain ⟨steps, t, outcomes, calls, next, hload, hfinish, htimes, -, hnext⟩ :=
      exists_course_loadAll hwait source job
    rw [List.cons_append, List.pairwise_cons, List.pairwise_append] at htimes
    obtain ⟨hfrom, hsteps, -, huntil⟩ := htimes
    have hresting : Resting next.loading := by
      rw [hnext]
      apply hwait.settled hfinish hsteps
    obtain ⟨courses, reports, hrun, hjobs, hsorted, hlater⟩ := ih hresting
    rw [hnext] at hrun
    have hclock : store.clock ≤ (store.wait now).clock := Nat.le_max_left _ _
    have hnow : ∀ now ∈ steps.map Prod.fst, store.clock ≤ now := fun _ hmem =>
      hclock.trans (hfrom _ (List.mem_append_left _ hmem))
    have hnext' : store.clock ≤ next.clock :=
      hclock.trans (hfrom _ (List.mem_append_right _ List.mem_cons_self))
    refine ⟨⟨job, steps⟩ :: courses, .of t :: reports, ?_, ?_, ?_, ?_⟩
    · rw [afterJobs, hload]
      apply finishAll_cons_eq_some_iff.mpr ⟨t, reports, hfinish, hrun, rfl⟩
    · rw [List.map_cons, hjobs]
      rfl
    · rw [instants_cons, List.pairwise_append]
      use hsteps, hsorted
      intro now hnow later hmem
      exact (huntil now hnow next.clock List.mem_cons_self).trans (hlater later hmem)
    · rw [instants_cons, List.forall_mem_append]
      use hnow
      intro later hmem
      exact hnext'.trans (hlater later hmem)

end Search

end HadithService
