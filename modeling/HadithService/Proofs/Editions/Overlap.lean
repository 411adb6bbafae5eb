import HadithService.Proofs.Editions.Progress

/-!
# Calls at the same time

A lock is taken off the table while other loads still wait for it.  A load that comes then makes a
new lock (`Loading.renews`), and from there on two loads can call the source for one edition at the
same time.  This is the only way: as long as no load makes a new lock for an edition while another
one may call the source under an old one, it is called by one load at a time
(`Loading.fetching_unique_until_renewed`).
-/

namespace HadithService

/-- The lock under which a load calls the source or may still do so. -/
def Phase.asking? : Phase → Option Nat
  | .found k => some k
  | .waiting k => some k
  | .missedAgain k => some k
  | .fetching k => some k
  | _ => none

theorem Phase.lock?_of_asking? {p : Phase} {k : Nat} (h : p.asking? = some k) :
  p.lock? = some k
  := by
  cases p with
  | found => apply h
  | waiting => apply h
  | missedAgain => apply h
  | fetching => apply h
  | _ => cases h

namespace Loading

variable {s t : Loading} {now : Instant} {m : Move} {i j k : Nat} {slug : String}

/-- A load calls the source for an edition. -/
def IsFetching (slug : String) (s : Loading) (i : Nat) : Prop :=
  ∃ k, s.loads[i]? = some ⟨slug, .fetching k⟩

/-- A load calls the source for an edition under a lock, or may still do so. -/
def IsAsking (slug : String) (k : Nat) (s : Loading) (i : Nat) : Prop :=
  ∃ p, s.loads[i]? = some ⟨slug, p⟩ ∧ p.asking? = some k

/-- Whether a load makes a new lock for an edition while another load may call the source under an
old one. -/
def renews (slug : String) (s : Loading) : Move → Bool
  | .advance i =>
    match s.loads[i]? with
    | some ⟨slug', .missed⟩ =>
      slug' == slug && (s.lock? slug).isNone &&
        s.loads.any fun l => l.slug == slug && l.phase.asking?.isSome
    | _ => false
  | _ => false

theorem renews_iff :
  s.renews slug m = true ↔ (∃ i, m = .advance i ∧ s.loads[i]? = some ⟨slug, .missed⟩) ∧
    s.lock? slug = none ∧ ∃ j k, IsAsking slug k s j
  := by
  have hasking : (s.loads.any fun l => l.slug == slug && l.phase.asking?.isSome) = true ↔
      ∃ j k, IsAsking slug k s j := by
    simp only [List.any_eq_true, Bool.and_eq_true, beq_iff_eq, Option.isSome_iff_exists,
      List.mem_iff_getElem?, IsAsking]
    constructor
    · rintro ⟨⟨_, p⟩, ⟨j, hj⟩, rfl, k, hk⟩
      use j, k, p, hj, hk
    · rintro ⟨j, k, p, hj, hk⟩
      use ⟨slug, p⟩, ⟨j, hj⟩, rfl, k, hk
  rw [← hasking]
  constructor
  · intro h
    cases m with
    | advance i =>
      rcases hi : s.loads[i]? with _ | ⟨slug', p⟩
      · simp [renews, hi] at h
      · cases p with
        | missed =>
          simp only [renews, hi, Bool.and_eq_true, beq_iff_eq, Option.isNone_iff_eq_none] at h
          obtain ⟨⟨rfl, hlock⟩, hany⟩ := h
          use ⟨i, rfl, hi⟩, hlock, hany
        | _ => simp [renews, hi] at h
    | _ => cases h
  · rintro ⟨⟨i, rfl, hi⟩, hlock, hany⟩
    simp [renews, hi, hlock, hany]

/-- Whether a lock is renewed in a run. -/
def everRenews (slug : String) (s : Loading) : List (Instant × Move) → Bool
  | [] => false
  | (now, m) :: rest => s.renews slug m || (s.move now m).any fun s => s.everRenews slug rest

theorem lock?_of_release {slug' : String}
    (h : lock? { s with table := s.table.filter fun e => e.1 != slug' } slug = some k) :
  s.lock? slug = some k
  := by
  by_cases hslug : slug' = slug
  · subst hslug
    obtain ⟨e, he, -⟩ := Option.map_eq_some_iff.mp h
    have hmem := List.mem_of_find?_eq_some he
    have hkey := List.find?_some he
    simp [eq_of_beq hkey] at hmem
  · rw [← lock?_release_of_ne hslug, h]

/-! ### One lock at a time -/

/-- All that may call the source for an edition do so under one lock, which is the one on the
table if there is one. -/
def Unanimous (slug : String) (s : Loading) : Prop :=
  ∃ k, (∀ k', s.lock? slug = some k' → k' = k) ∧ ∀ i k', IsAsking slug k' s i → k' = k

namespace Unanimous

theorem idle (slug : String) (cache : EditionCache) :
  Unanimous slug (idle cache)
  := by
  use 0
  simp [Loading.idle, lock?, IsAsking]

/-- A load may go on under the lock that it has, or without one. -/
theorem update (h : Unanimous slug s) {slug' : String} {p q : Phase}
    (hi : s.loads[i]? = some ⟨slug', q⟩) (hloads : t.loads = (s.setPhase i p).loads)
    (hlock : ∀ k, t.lock? slug = some k → s.lock? slug = some k)
    (hp : ∀ k, p.asking? = some k → slug' = slug → q.asking? = some k ∨ s.lock? slug = some k) :
  Unanimous slug t
  := by
  obtain ⟨k, htable, hasking⟩ := h
  use k
  constructor
  · intro k' hk'
    apply htable k' (hlock k' hk')
  · rintro j k' ⟨r, hj, hk'⟩
    rw [hloads] at hj
    rcases setPhase_phase_cases hi hj with ⟨-, rfl, rfl⟩ | ⟨-, hj⟩
    · rcases hp k' hk' rfl with hq | hs
      · apply hasking i k' ⟨q, hi, hq⟩
      · apply htable k' hs
    · apply hasking j k' ⟨r, hj, hk'⟩

/-- A load goes on under the lock that it has. -/
theorem goOn (h : Unanimous slug s) {slug' : String} {p q : Phase}
    (hi : s.loads[i]? = some ⟨slug', q⟩) (hloads : t.loads = (s.setPhase i p).loads)
    (htable : t.table = s.table) (hp : ∀ k, p.asking? = some k → q.asking? = some k) :
  Unanimous slug t
  := by
  apply h.update hi hloads
  · intro k hk
    rw [lock?, htable] at hk
    apply hk
  · intro k hk _
    left
    apply hp k hk

theorem begin (h : Unanimous slug s) (slug' : String) :
  Unanimous slug { s with loads := s.loads ++ [⟨slug', .begun⟩] }
  := by
  obtain ⟨k, htable, hasking⟩ := h
  use k, htable
  rintro i k' ⟨p, hi, hk'⟩
  rcases getElem?_begin hi with hi | rfl
  · apply hasking i k' ⟨p, hi, hk'⟩
  · cases hk'

/-- A new lock does not matter to the other editions, and is the only one of its own when no other
load has got one. -/
theorem make (h : Unanimous slug s) {slug' : String} (hi : s.loads[i]? = some ⟨slug', .missed⟩)
    (hrenews : slug' = slug → ∀ j k, ¬ IsAsking slug k s j) :
  Unanimous slug ({ s with
    table := (slug', s.queues.length) :: s.table
    queues := s.queues ++ [[]] }.setPhase i (.found s.queues.length))
  := by
  by_cases hslug : slug' = slug
  · subst hslug
    use s.queues.length
    constructor
    · intro k hk
      simpa [lock?, eq_comm] using hk
    · rintro j k ⟨p, hj, hk⟩
      rcases setPhase_phase_cases (s := { s with
        table := (slug', s.queues.length) :: s.table
        queues := s.queues ++ [[]] }) hi hj with ⟨-, -, rfl⟩ | ⟨-, hj⟩
      · apply (Option.some.inj hk).symm
      · cases hrenews rfl j k ⟨p, hj, hk⟩
  · exact h.update (p := .found s.queues.length) hi rfl (by simp [lock?, hslug])
      fun _ _ heq => absurd heq hslug

/-- Every step that does not renew the lock of an edition keeps it the only one. -/
theorem step (h : Unanimous slug s) (hstep : Step s now m t) (hrenews : s.renews slug m = false) :
  Unanimous slug t
  := by
  cases hstep with
  | begin slug' => apply h.begin
  | hit hi => exact h.goOn (p := .done _) hi rfl rfl (by rintro _ ⟨⟩)
  | miss hi => exact h.goOn (p := .missed) hi rfl rfl (by rintro _ ⟨⟩)
  | @take i slug' k hi hlock =>
    refine h.update (p := .found k) hi rfl (fun _ hk => hk) ?_
    rintro _ ⟨⟩ rfl
    right
    apply hlock
  | @make i slug' hi hlock =>
    apply h.make hi
    rintro rfl j k hj
    rw [renews_iff.mpr ⟨⟨i, rfl, hi⟩, hlock, j, k, hj⟩] at hrenews
    cases hrenews
  | @enqueue i slug' k hi => exact h.goOn (p := .waiting k) hi rfl rfl fun _ hk => hk
  | hitAgain hi => exact h.goOn (p := .leaving _ _) hi rfl rfl (by rintro _ ⟨⟩)
  | @missAgain i slug' k hi => exact h.goOn (p := .missedAgain k) hi rfl rfl fun _ hk => hk
  | @call i slug' k hi => exact h.goOn (p := .fetching k) hi rfl rfl fun _ hk => hk
  | answer outcome hi => exact h.goOn (p := .fetched _ outcome) hi rfl rfl (by rintro _ ⟨⟩)
  | @store i slug' k outcome hi =>
    cases outcome with
    | error e => exact h.goOn (p := .stored k (.error e)) hi rfl rfl (by rintro _ ⟨⟩)
    | ok hadiths => exact h.goOn (p := .stored k (.ok hadiths)) hi rfl rfl (by rintro _ ⟨⟩)
  | @release i slug' k outcome hi =>
    exact h.update (p := .leaving k outcome) hi rfl (fun _ => lock?_of_release) (by rintro _ ⟨⟩)
  | leave hi => exact h.goOn (p := .done _) hi rfl rfl (by rintro _ ⟨⟩)

theorem run {steps : List (Instant × Move)} (h : Unanimous slug s)
    (hrenews : s.everRenews slug steps = false) (hrun : s.run steps = some t) :
  Unanimous slug t
  := by
  induction steps generalizing s with
  | nil =>
    obtain rfl := Option.some.inj hrun
    apply h
  | cons step steps ih =>
    obtain ⟨now, m⟩ := step
    obtain ⟨u, hstep, hrun⟩ := run_cons_eq_some_iff.mp hrun
    rw [everRenews, move_eq_some_iff.mpr hstep, Bool.or_eq_false_iff] at hrenews
    apply ih (h.step hstep hrenews.1) hrenews.2 hrun

/-- The source is called by one load at a time. -/
theorem fetching_unique (h : Unanimous slug s) (horderly : Orderly s) (hi : IsFetching slug s i)
    (hj : IsFetching slug s j) :
  i = j
  := by
  obtain ⟨k, -, hasking⟩ := h
  obtain ⟨k', hi⟩ := hi
  obtain ⟨k'', hj⟩ := hj
  obtain rfl := hasking i k' ⟨_, hi, rfl⟩
  obtain rfl := hasking j k'' ⟨_, hj, rfl⟩
  apply horderly.held_unique hi rfl hj rfl

end Unanimous

/-! ### Two locks at a time -/

/-- There are steps of the loads that have begun, from an instant on, after which two of them call
the source for an edition. -/
def CanOverlap (slug : String) (since : Instant) (s : Loading) : Prop :=
  ∃ steps t, (since :: steps.map Prod.fst).Pairwise (· ≤ ·) ∧
    (∀ step ∈ steps, step.2.load?.isSome) ∧ s.run steps = some t ∧
    ∃ i j, i ≠ j ∧ IsFetching slug t i ∧ IsFetching slug t j

theorem CanOverlap.of_step {since : Instant} (hnow : since ≤ now) (hstep : Step s now m t)
    (hload : m.load? = some i) (h : CanOverlap slug now t) :
  CanOverlap slug since s
  := by
  obtain ⟨steps, u, htimes, hloads, hrun, hboth⟩ := h
  use (now, m) :: steps, u
  constructor
  · rw [List.map_cons, List.pairwise_cons]
    constructor
    · intro later hlater
      rcases List.mem_cons.mp hlater with rfl | hlater
      · apply hnow
      · apply Nat.le_trans hnow (List.rel_of_pairwise_cons htimes hlater)
    · apply htimes
  · constructor
    · intro step hmem
      rcases List.mem_cons.mp hmem with rfl | hmem
      · rw [hload, Option.isSome_some]
      · apply hloads step hmem
    · use run_cons_eq_some_iff.mpr ⟨t, hstep, hrun⟩

namespace IsAsking

theorem lock (h : IsAsking slug k s i) :
  ∃ l, s.loads[i]? = some l ∧ l.phase.lock? = some k
  := by
  obtain ⟨p, hi, hk⟩ := h
  use ⟨slug, p⟩, hi, Phase.lock?_of_asking? hk

theorem ne_of_lock (h : IsAsking slug k s i) {l : Load} {k' : Nat} (hl : s.loads[j]? = some l)
    (hk' : l.phase.lock? = some k') (hne : k ≠ k') :
  i ≠ j
  := by
  rintro rfl
  obtain ⟨l', hl', hk⟩ := h.lock
  obtain rfl := Option.some.inj (hl'.symm.trans hl)
  apply hne (Option.some.inj (hk.symm.trans hk'))

theorem self {p q : Phase} (hi : s.loads[i]? = some ⟨slug, q⟩)
    (hloads : t.loads = (s.setPhase i p).loads) (hk : p.asking? = some k) :
  IsAsking slug k t i
  := by
  use p
  rw [hloads, setPhase_self p hi]
  use rfl, hk

/-- The steps of other loads do not matter to a load that may call the source. -/
theorem of_step (h : IsAsking slug k s i) (hstep : Step s now m t) (hload : m.load? = some j)
    (hne : i ≠ j) :
  IsAsking slug k t i
  := by
  obtain ⟨p, hi, hk⟩ := h
  obtain ⟨slug', q, r, -, hloads, -⟩ := hstep.exists_setPhase hload
  use p
  rw [hloads, setPhase_of_ne r hne]
  use hi, hk

/-- A load that may call the source does so once the loads before it in its queue are done, when
it comes so late that the edition is not in the cache. -/
theorem exists_step (h : IsAsking slug k s i) (horderly : Orderly s) (since : Instant) :
  IsFetching slug s i ∨ ∃ now m t j, since ≤ now ∧ Step s now m t ∧ m.load? = some j ∧
    (∃ l, s.loads[j]? = some l ∧ l.phase.lock? = some k) ∧ IsAsking slug k t i
  := by
  have hlock := h.lock
  obtain ⟨p, hi, hk⟩ := h
  cases p with
  | found k' =>
    obtain rfl := Option.some.inj hk
    right
    refine ⟨since, .advance i, _, i, Nat.le_refl _, .enqueue hi, rfl, hlock, ?_⟩
    exact self (p := .waiting k') hi rfl rfl
  | waiting k' =>
    obtain rfl := Option.some.inj hk
    right
    obtain ⟨j, hhead⟩ := horderly.exists_head hi
    by_cases hij : i = j
    · subst hij
      obtain ⟨now, hnow, hpeek⟩ := s.cache.exists_peek_eq_none slug since
      refine ⟨now, .advance i, _, i, hnow, .missAgain hi (holds_iff.mpr hhead) hpeek, rfl, hlock, ?_⟩
      exact self (p := .missedAgain k') hi rfl rfl
    · obtain ⟨m, t, hload, hstep, -⟩ :=
        horderly.exists_step_of_head (fun _ => .error .request) since hhead
      obtain ⟨l, hl, hqueue⟩ := horderly.of_head hhead
      use since, m, t, j, Nat.le_refl _, hstep, hload, ⟨l, hl, Phase.lock?_of_queue? hqueue⟩
      apply of_step ⟨_, hi, rfl⟩ hstep hload hij
  | missedAgain k' =>
    obtain rfl := Option.some.inj hk
    right
    refine ⟨since, .advance i, _, i, Nat.le_refl _, .call hi, rfl, hlock, ?_⟩
    exact self (p := .fetching k') hi rfl rfl
  | fetching k' =>
    left
    use k'
  | _ => cases hk

/-- Two loads that may call the source under different locks can come to do so at the same
time. -/
theorem canOverlap {k' : Nat} (hi : IsAsking slug k s i) (hj : IsAsking slug k' s j)
    (horderly : Orderly s) (hne : k ≠ k') (since : Instant) :
  CanOverlap slug since s
  := by
  -- both loads may still call the source after every step, and every step leaves fewer steps
  induction hn : s.rank using Nat.strongRecOn generalizing s since with
  | ind n ih =>
    subst hn
    rcases hi.exists_step horderly since with
      hfetching | ⟨now, m, t, h, hnow, hstep, hload, ⟨l, hl, hlock⟩, hi'⟩
    · rcases hj.exists_step horderly since with
        hfetching' | ⟨now, m, t, h, hnow, hstep, hload, ⟨l, hl, hlock⟩, hj'⟩
      · use [], s
        simp only [List.map_nil, List.pairwise_singleton, List.not_mem_nil, false_implies,
          implies_true, run, true_and]
        obtain ⟨l, hl, hlock⟩ := hj.lock
        use i, j, hi.ne_of_lock hl hlock hne, hfetching
      · have hi' := hi.of_step hstep hload (hi.ne_of_lock hl hlock hne)
        have hoverlap := ih t.rank (hstep.rank_lt hload) hi' hj' (horderly.step hstep) now rfl
        apply CanOverlap.of_step hnow hstep hload hoverlap
    · have hj' := hj.of_step hstep hload (hj.ne_of_lock hl hlock hne.symm)
      have hoverlap := ih t.rank (hstep.rank_lt hload) hi' hj' (horderly.step hstep) now rfl
      apply CanOverlap.of_step hnow hstep hload hoverlap

end IsAsking

/-- After a lock was renewed two loads can come to call the source at the same time. -/
theorem canOverlap_of_renews (horderly : Orderly s) (hstep : Step s now m t)
    (h : s.renews slug m = true) :
  CanOverlap slug now t
  := by
  obtain ⟨⟨i, rfl, hi⟩, hlock, j, k, hj⟩ := renews_iff.mp h
  obtain ⟨l, hl, hk⟩ := hj.lock
  have hlt := horderly.lt_of_lock j l k hl hk
  have hne : j ≠ i := by
    rintro rfl
    obtain rfl := Option.some.inj (hi.symm.trans hl)
    cases hk
  have hj' := hj.of_step hstep rfl hne
  have hi' : IsAsking slug s.queues.length t i := by
    have hmake : s.move now (.advance i) = some _ := move_eq_some_iff.mpr (.make hi hlock)
    obtain rfl := Option.some.inj (hmake.symm.trans (move_eq_some_iff.mpr hstep))
    exact IsAsking.self (p := .found s.queues.length) hi rfl rfl
  apply hi'.canOverlap hj' (horderly.step hstep) (Nat.ne_of_gt hlt)

/-- The source is called by one load of an edition at a time, as long as no lock of the edition is
renewed while a load may call the source under the old one.  Whenever a lock is renewed so, two of
the loads that have begun can come to call it at the same time. -/
theorem fetching_unique_until_renewed {lifetime : Duration} {capacity : Nat}
    {steps : List (Instant × Move)} (slug : String)
    (hrun : (idle (.empty lifetime capacity)).run steps = some s) :
  ((idle (.empty lifetime capacity)).everRenews slug steps = false →
      ∀ i j, IsFetching slug s i → IsFetching slug s j → i = j) ∧
    ∀ now m t, s.move now m = some t → s.renews slug m = true → CanOverlap slug now t
  := by
  have horderly : Orderly s := (Orderly.idle _).run hrun
  constructor
  · intro hrenews i j
    have hunanimous := (Unanimous.idle slug _).run hrenews hrun
    apply hunanimous.fetching_unique horderly
  · intro now m t hmove
    apply canOverlap_of_renews horderly (move_eq_some_iff.mp hmove)

/-- A run in which a load waits for the lock of another one, whose call fails, and a third load
comes when the lock is off the table. -/
def renewingSteps : List (Instant × Move) :=
  [(0, .begin "a"), (1, .advance 0), (2, .advance 0), (3, .advance 0), (4, .advance 0),
   (5, .advance 0), (6, .begin "a"), (7, .advance 1), (8, .advance 1), (9, .advance 1),
   (10, .answer 0 (.error .request)), (11, .advance 0), (12, .advance 0), (13, .advance 0),
   (14, .advance 1), (15, .advance 1), (16, .begin "a"), (17, .advance 2)]

/-- The state before the third load makes a lock. -/
def renewingEnd : Loading :=
  ((idle (.empty 60 2)).run renewingSteps).getD (idle (.empty 60 2))

theorem fetching_unique_until_third :
  (idle (.empty 60 2)).run renewingSteps = some renewingEnd ∧
    (∀ i j, IsFetching "a" renewingEnd i → IsFetching "a" renewingEnd j → i = j) ∧
    ∃ t, renewingEnd.move 18 (.advance 2) = some t ∧ CanOverlap "a" 18 t
  := by
  have hrun : (idle (.empty 60 2)).run renewingSteps = some renewingEnd := rfl
  obtain ⟨hunique, hoverlap⟩ := fetching_unique_until_renewed "a" hrun
  use hrun
  constructor
  · apply hunique
    decide
  · refine ⟨_, rfl, ?_⟩
    apply hoverlap 18 (.advance 2) _ rfl
    decide

/-- The third load calls the source while the second one does. -/
theorem two_calls_at_a_time :
  ∃ s, (idle (.empty 60 2)).run (renewingSteps ++ [(18, .advance 2), (19, .advance 2),
      (20, .advance 2), (21, .advance 2)]) = some s ∧
    IsFetching "a" s 1 ∧ IsFetching "a" s 2
  := by
  refine ⟨_, rfl, ?_, ?_⟩
  · use 0
    rfl
  · use 1
    rfl

end Loading

end HadithService
