import HadithService.Proofs.Editions.Frames
import HadithService.Proofs.Limits.Counters

/-!
# Locks that are left over

A load that finds its edition at the second look leaves the lock on the table, since the load that
has put the edition there will take it off, or has done so.  But a load may make a lock when that
has been done already (`Loading.makesLate`).  These are the locks that are left on the table when
all loads are done, unless a later load of the edition calls the source and takes them off
(`Loading.left_locks_stranded`).
-/

namespace HadithService

/-! ### Editions that are not there -/

namespace EditionCache

variable {c : EditionCache} {slug slug' : String} {hadiths : List Hadith}
  {since now : Instant}

/-- From an instant on a lookup under an identifier will find nothing. -/
def Lacks (c : EditionCache) (slug : String) (since : Instant) : Prop :=
  ∀ e ∈ c.editions, e.slug = slug → hasExpired c.lifetime e.fetchedAt since = true

theorem Distinct.lacks (h : c.Distinct) (hpeek : c.peek slug now = none) :
  c.Lacks slug now
  := by
  rintro e he rfl
  by_contra hfresh
  rw [Bool.not_eq_true, ← Bool.not_eq_true', hasExpired] at hfresh
  have hnow : now - e.fetchedAt ≤ c.lifetime := by simpa using hfresh
  rw [h.peek he hnow] at hpeek
  cases hpeek

namespace Lacks

theorem later (h : c.Lacks slug since) (hle : since ≤ now) :
  c.Lacks slug now
  := by
  intro e he hslug
  apply hasExpired_mono hle (h e he hslug)

theorem peek (h : c.Lacks slug now) :
  c.peek slug now = none
  := peek_eq_none h

theorem get (h : c.Lacks slug since) (slug' : String) (now : Instant) :
  (c.get slug' now).2.Lacks slug since
  := by
  rw [Lacks, get_editions, (SameLimits.get c slug' now).lifetime_eq]
  apply h

/-- An insertion under another identifier does not bring the edition back. -/
theorem insert (h : c.Lacks slug since) (hne : slug' ≠ slug) :
  (c.insert slug' hadiths now).Lacks slug since
  := by
  intro e he hslug
  rw [(SameLimits.insert c slug' hadiths now).lifetime_eq]
  rcases mem_insert he with rfl | he
  · cases hne hslug
  · apply h e he hslug

end Lacks

end EditionCache

/-! ### What happens to the lock of an edition -/

namespace Phase

/-- Whether a load has not found its edition at the second look, and has not taken the lock off the
table yet. -/
def owes : Phase → Bool
  | .missedAgain _ => true
  | .fetching _ => true
  | .fetched _ _ => true
  | .stored _ _ => true
  | _ => false

/-- Whether a load has got a lock and has not looked a second time. -/
def queues : Phase → Bool
  | .found _ => true
  | .waiting _ => true
  | _ => false

end Phase

namespace Loading

variable {s t : Loading} {now since : Instant} {m : Move} {i j k : Nat} {slug slug' : String}
  {steps : List (Instant × Move)}

/-- Whether a load makes a lock for an edition that is in the cache by now, when no other load is
going to take the lock off the table. -/
def makesLate (slug : String) (s : Loading) (now : Instant) : Move → Bool
  | .advance i =>
    match s.loads[i]? with
    | some ⟨slug', .missed⟩ =>
      slug' == slug && (s.lock? slug).isNone && (s.cache.peek slug now).isSome &&
        !s.loads.any fun l => l.slug == slug && l.phase.owes
    | _ => false
  | _ => false

/-- Whether a load takes the lock of an edition off the table. -/
def releases (slug : String) (s : Loading) : Move → Bool
  | .advance i =>
    match s.loads[i]? with
    | some ⟨slug', .stored _ _⟩ => slug' == slug
    | _ => false
  | _ => false

/-- Whether a lock of an edition has been made late and not been taken off the table since, given
whether this was so before the run. -/
def strands (slug : String) (stranded : Bool) (s : Loading) : List (Instant × Move) → Bool
  | [] => stranded
  | (now, m) :: rest =>
    match s.move now m with
    | none => stranded
    | some t => t.strands slug (s.makesLate slug now m || stranded && !s.releases slug m) rest

theorem strands_cons {stranded : Bool} (hstep : Step s now m t) :
  s.strands slug stranded ((now, m) :: steps)
    = t.strands slug (s.makesLate slug now m || stranded && !s.releases slug m) steps
  := by
  rw [strands, move_eq_some_iff.mpr hstep]

/-- The lock of an edition on the table stays, is taken off, or is made. -/
theorem Step.lock?_cases (h : Step s now m t) (slug : String) :
  (t.lock? slug = s.lock? slug ∧ s.makesLate slug now m = false ∧ s.releases slug m = false) ∨
    (t.lock? slug = none ∧ s.makesLate slug now m = false ∧ s.releases slug m = true) ∨
    ∃ i k, m = .advance i ∧ s.loads[i]? = some ⟨slug, .missed⟩ ∧ s.lock? slug = none ∧
      t.lock? slug = some k ∧ t.loads = (s.setPhase i (.found k)).loads ∧ t.cache = s.cache
  := by
  cases h with
  | begin => exact .inl ⟨rfl, rfl, rfl⟩
  | hit hi => exact .inl ⟨rfl, by simp [makesLate, hi], by simp [releases, hi]⟩
  | miss hi => exact .inl ⟨rfl, by simp [makesLate, hi], by simp [releases, hi]⟩
  | @take i slug' k hi hlock =>
    left
    refine ⟨rfl, ?_, by simp [releases, hi]⟩
    by_cases hslug : slug' = slug
    · simp [makesLate, hi, ← hslug, hlock]
    · simp [makesLate, hi, hslug]
  | @make i slug' hi hlock =>
    by_cases hslug : slug' = slug
    · subst hslug
      right
      right
      use i, s.queues.length, rfl, hi, hlock
      simp [lock?, setPhase]
    · left
      refine ⟨by simp [lock?, hslug], by simp [makesLate, hi, hslug], by simp [releases, hi]⟩
  | enqueue hi => exact .inl ⟨rfl, by simp [makesLate, hi], by simp [releases, hi]⟩
  | hitAgain hi => exact .inl ⟨rfl, by simp [makesLate, hi], by simp [releases, hi]⟩
  | missAgain hi => exact .inl ⟨rfl, by simp [makesLate, hi], by simp [releases, hi]⟩
  | call hi => exact .inl ⟨rfl, by simp [makesLate, hi], by simp [releases, hi]⟩
  | answer outcome hi => exact .inl ⟨rfl, rfl, rfl⟩
  | @store i slug' k outcome hi =>
    left
    refine ⟨?_, by simp [makesLate, hi], by simp [releases, hi]⟩
    cases outcome with
    | error e => rfl
    | ok hadiths => rfl
  | @release i slug' k outcome hi =>
    by_cases hslug : slug' = slug
    · subst hslug
      right
      left
      refine ⟨?_, by simp [makesLate, hi], by simp [releases, hi]⟩
      simp [lock?]
    · left
      refine ⟨lock?_release_of_ne hslug, by simp [makesLate, hi], by simp [releases, hi, hslug]⟩
  | leave hi => exact .inl ⟨rfl, by simp [makesLate, hi], by simp [releases, hi]⟩

/-! ### Locks that will be taken off -/

/-- A load is going to take the lock of an edition off the table, unless another one has put the
edition into the cache before and does it. -/
def IsCovered (slug : String) (since : Instant) (s : Loading) : Prop :=
  ∃ (i : Nat) (p : Phase), s.loads[i]? = some ⟨slug, p⟩ ∧
    (p.owes = true ∨ p.queues = true ∧ s.cache.Lacks slug since)

namespace IsCovered

/-- A load may go on, if it is not the one or still is. -/
theorem update (h : IsCovered slug since s) {p q : Phase} (hi : s.loads[i]? = some ⟨slug', q⟩)
    (hloads : t.loads = (s.setPhase i p).loads)
    (hcache : s.cache.Lacks slug since → t.cache.Lacks slug now)
    (howes : slug' = slug → q.owes = true → p.owes = true)
    (hqueues : slug' = slug → q.queues = true → s.cache.Lacks slug since →
      p.owes = true ∨ p.queues = true) :
  IsCovered slug now t
  := by
  obtain ⟨j, r, hj, hr⟩ := h
  by_cases hji : j = i
  · subst hji
    obtain ⟨rfl, rfl⟩ := Load.mk.inj (Option.some.inj (hi.symm.trans hj))
    use j, p
    rw [hloads, setPhase_self p hi]
    use rfl
    rcases hr with hr | ⟨hr, hlacks⟩
    · left
      apply howes rfl hr
    · apply (hqueues rfl hr hlacks).imp_right
      intro hp
      use hp, hcache hlacks
  · use j, r
    rw [hloads, setPhase_of_ne p hji]
    use hj
    apply hr.imp_right
    rintro ⟨hr, hlacks⟩
    use hr, hcache hlacks

/-- Any load may go on that neither owes the lock nor queues for it. -/
theorem update_of_idle (h : IsCovered slug since s) {p q : Phase}
    (hi : s.loads[i]? = some ⟨slug', q⟩) (howes : q.owes = false) (hqueues : q.queues = false)
    (hloads : t.loads = (s.setPhase i p).loads)
    (hcache : s.cache.Lacks slug since → t.cache.Lacks slug now) :
  IsCovered slug now t
  := by
  apply h.update hi hloads hcache
  · intro _ hq
    rw [howes] at hq
    cases hq
  · intro _ hq
    rw [hqueues] at hq
    cases hq

/-- Any load may go on and owe the lock. -/
theorem update_of_owes (h : IsCovered slug since s) {p q : Phase}
    (hi : s.loads[i]? = some ⟨slug', q⟩) (hp : p.owes = true)
    (hloads : t.loads = (s.setPhase i p).loads)
    (hcache : s.cache.Lacks slug since → t.cache.Lacks slug now) :
  IsCovered slug now t
  := h.update hi hloads hcache (fun _ _ => hp) fun _ _ _ => .inl hp

/-- A lock that will be taken off the table is taken off or still will be. -/
theorem step (h : IsCovered slug since s) (hle : since ≤ now) (hstep : Step s now m t)
    (hkeeps : s.releases slug m = false) :
  IsCovered slug now t
  := by
  have hlater : s.cache.Lacks slug since → s.cache.Lacks slug now := fun hlacks => hlacks.later hle
  have hget : ∀ slug', s.cache.Lacks slug since → (s.cache.get slug' now).2.Lacks slug now :=
    fun slug' hlacks => (hlater hlacks).get slug' now
  cases hstep with
  | begin slug' =>
    obtain ⟨i, p, hi, hp⟩ := h
    use i, p, (List.getElem?_append_left (List.getElem?_eq_some_iff.mp hi).1).trans hi
    apply hp.imp_right
    rintro ⟨hp, hlacks⟩
    use hp, hlater hlacks
  | hit hi => exact h.update_of_idle (p := .done _) hi rfl rfl rfl (hget _)
  | miss hi => exact h.update_of_idle (p := .missed) hi rfl rfl rfl (hget _)
  | take hi => exact h.update_of_idle (p := .found _) hi rfl rfl rfl hlater
  | make hi => exact h.update_of_idle (p := .found _) hi rfl rfl rfl hlater
  | enqueue hi =>
    refine h.update (p := .waiting _) hi rfl hlater ?_ ?_
    · intro _ howes
      cases howes
    · intro _ _ _
      right
      rfl
  | @hitAgain i slug' k hadiths hi hhead hpeek =>
    refine h.update (p := .leaving k (.ok hadiths)) hi rfl (hget _) ?_ ?_
    · intro _ howes
      cases howes
    · rintro rfl - hlacks
      rw [(hlater hlacks).peek] at hpeek
      cases hpeek
  | missAgain hi => exact h.update_of_owes (p := .missedAgain _) hi rfl rfl (hget _)
  | call hi => exact h.update_of_owes (p := .fetching _) hi rfl rfl hlater
  | answer outcome hi => exact h.update_of_owes (p := .fetched _ outcome) hi rfl rfl hlater
  | @store i slug' k outcome hi =>
    have hloads : ((s.store slug' now outcome).setPhase i (.stored k outcome)).loads
        = (s.setPhase i (.stored k outcome)).loads := by
      rw [setPhase, setPhase, store_loads]
    by_cases hslug : slug' = slug
    · -- the edition may be in the cache now, and the load that put it there is the one
      use i, .stored k outcome
      rw [hloads, setPhase_self _ hi, hslug]
      use rfl
      left
      rfl
    · apply h.update_of_owes hi rfl hloads
      intro hlacks
      cases outcome with
      | error e => apply hlater hlacks
      | ok hadiths => exact (hlater hlacks).insert hslug
  | @release i slug' k outcome hi =>
    refine h.update (p := .leaving k outcome) hi rfl hlater ?_ ?_
    · rintro rfl -
      simp [releases, hi] at hkeeps
    · intro _ hqueues
      cases hqueues
  | leave hi => exact h.update_of_idle (p := .done _) hi rfl rfl rfl hlater

/-- When every load is done, no lock will be taken off. -/
theorem not_isSettled (h : IsCovered slug since s) :
  s.isSettled = false
  := by
  obtain ⟨i, p, hi, hp⟩ := h
  by_contra hsettled
  rw [Bool.not_eq_false] at hsettled
  obtain ⟨outcome, rfl⟩ := done_of_isSettled hsettled hi
  rcases hp with hp | ⟨hp, -⟩
  · cases hp
  · cases hp

end IsCovered

/-- A lock that is not made late will be taken off. -/
theorem isCovered_of_made (hdistinct : s.cache.Distinct)
    (hi : s.loads[i]? = some ⟨slug, .missed⟩) (hlock : s.lock? slug = none)
    (hlate : s.makesLate slug now (.advance i) = false)
    (hloads : t.loads = (s.setPhase i (.found k)).loads) (hcache : t.cache = s.cache) :
  IsCovered slug now t
  := by
  cases hpeek : s.cache.peek slug now with
  | none =>
    use i, .found k
    rw [hloads, setPhase_self _ hi, hcache]
    use rfl
    right
    use rfl, hdistinct.lacks hpeek
  | some hadiths =>
    simp only [makesLate, hi, beq_self_eq_true, hlock, Option.isNone_none, hpeek, Option.isSome_some,
      Bool.and_true, Bool.true_and, Bool.not_eq_false'] at hlate
    obtain ⟨⟨slug', p⟩, hl, hp⟩ := List.any_eq_true.mp hlate
    obtain ⟨j, hj⟩ := List.mem_iff_getElem?.mp hl
    rw [Bool.and_eq_true, beq_iff_eq] at hp
    obtain ⟨rfl, hp⟩ := hp
    have hji : j ≠ i := by
      rintro rfl
      rw [hi] at hj
      obtain ⟨-, rfl⟩ := Load.mk.inj (Option.some.inj hj)
      cases hp
    use j, p
    rw [hloads, setPhase_of_ne _ hji]
    use hj
    left
    apply hp

/-! ### Locks that are left -/

/-- A lock of an edition is on the table if one is stranded there, and otherwise only if it will be
taken off. -/
structure Accounted (slug : String) (stranded : Bool) (since : Instant) (s : Loading) : Prop where
  lock : stranded = true → (s.lock? slug).isSome = true
  covered : (s.lock? slug).isSome = true → stranded = false → IsCovered slug since s

namespace Accounted

variable {stranded : Bool}

theorem idle (slug : String) (since : Instant) (cache : EditionCache) :
  Accounted slug false since (idle cache)
  := ⟨nofun, nofun⟩

theorem step (h : Accounted slug stranded since s) (hle : since ≤ now)
    (hdistinct : s.cache.Distinct) (hstep : Step s now m t) :
  Accounted slug (s.makesLate slug now m || stranded && !s.releases slug m) now t
  := by
  rcases hstep.lock?_cases slug with ⟨hlock, hlate, hreleases⟩ | ⟨hlock, hlate, hreleases⟩ |
    ⟨i, k, rfl, hi, hold, hlock, hloads, hcache⟩
  · rw [hlate, hreleases, Bool.not_false, Bool.and_true, Bool.false_or]
    constructor
    · rw [hlock]
      apply h.lock
    · intro hsome hstranded
      rw [hlock] at hsome
      apply (h.covered hsome hstranded).step hle hstep hreleases
  · rw [hlate, hreleases, Bool.not_true, Bool.and_false, Bool.false_or]
    constructor
    · intro hstranded
      cases hstranded
    · rw [hlock]
      nofun
  · constructor
    · rw [hlock]
      intro _
      rfl
    · intro _ hstranded
      rw [Bool.or_eq_false_iff] at hstranded
      apply isCovered_of_made hdistinct hi hold hstranded.1 hloads hcache

theorem run (h : Accounted slug stranded since s) (hsteady : Steady (fun _ => True) s)
    (htimes : (since :: steps.map Prod.fst).Pairwise (· ≤ ·)) (hrun : s.run steps = some t) :
  ∃ last, Accounted slug (s.strands slug stranded steps) last t
  := by
  induction steps generalizing s stranded since with
  | nil =>
    obtain rfl := Option.some.inj hrun
    use since, h.lock
    apply h.covered
  | cons step steps ih =>
    obtain ⟨now, m⟩ := step
    obtain ⟨u, hstep, hrun⟩ := run_cons_eq_some_iff.mp hrun
    obtain ⟨hle, htimes⟩ := List.pairwise_cons.mp htimes
    rw [strands_cons hstep]
    have hnext := h.step (hle now List.mem_cons_self) hsteady.distinct hstep
    apply ih hnext (hsteady.step trivial hstep) htimes hrun

end Accounted

theorem lock?_isSome_iff :
  (s.lock? slug).isSome = true ↔ slug ∈ s.table.map Prod.fst
  := by
  rw [lock?, Option.isSome_map, List.find?_isSome, List.mem_map]
  simp only [beq_iff_eq]

/-- An edition has one lock on the table at most. -/
theorem Step.nodup_table (h : Step s now m t) (hs : (s.table.map Prod.fst).Nodup) :
  (t.table.map Prod.fst).Nodup
  := by
  cases h with
  | @make i slug hi hlock =>
    apply List.nodup_cons.mpr
    constructor
    · rw [← lock?_isSome_iff, hlock]
      nofun
    · apply hs
  | @store i slug k outcome hi =>
    cases outcome with
    | error e => apply hs
    | ok hadiths => apply hs
  | release hi => exact hs.sublist (List.filter_sublist.map _)
  | _ => apply hs

/-- When loads are all done, the table is empty unless a lock is stranded there: a lock that was made
when the edition was in the cache already and no load was going to take it off, and that no load of
the edition has taken off since.  Every such lock is left, one for an edition at most. -/
theorem left_locks_stranded {lifetime : Duration} {capacity : Nat}
    (hrun : (idle (.empty lifetime capacity)).run steps = some s)
    (htimes : (steps.map Prod.fst).Pairwise (· ≤ ·)) (hsettled : s.isSettled = true) :
  (s.table = [] ↔
      ∀ slug, (idle (.empty lifetime capacity)).strands slug false steps = false) ∧
    (s.table.map Prod.fst).Nodup ∧
    ∀ slug, slug ∈ s.table.map Prod.fst ↔
      (idle (.empty lifetime capacity)).strands slug false steps = true
  := by
  have hleft : ∀ slug, slug ∈ s.table.map Prod.fst ↔
      (idle (.empty lifetime capacity)).strands slug false steps = true := by
    intro slug
    obtain ⟨last, haccounted⟩ := (Accounted.idle slug 0 (.empty lifetime capacity)).run
      (Steady.idle lifetime capacity) (List.pairwise_cons.mpr ⟨fun _ _ => Nat.zero_le _, htimes⟩) hrun
    rw [← lock?_isSome_iff]
    constructor
    · intro hlock
      by_contra hstranded
      have hcovered := haccounted.covered hlock (Bool.eq_false_iff.mpr hstranded)
      rw [hcovered.not_isSettled] at hsettled
      cases hsettled
    · apply haccounted.lock
  constructor
  · rw [List.eq_nil_iff_forall_not_mem]
    constructor
    · intro hempty slug
      rw [Bool.eq_false_iff, ne_eq, ← hleft, List.mem_map]
      rintro ⟨e, he, -⟩
      apply hempty e he
    · intro hnone e he
      have hstranded := (hleft e.1).mp (List.mem_map_of_mem he)
      rw [hnone] at hstranded
      cases hstranded
  constructor
  · apply run_induction (P := fun u => (u.table.map Prod.fst).Nodup) _ _ hrun
    · intro now m _ u v hu hstep
      apply hstep.nodup_table hu
    · apply List.nodup_nil
  · apply hleft

/-- A run in which a load looks for its edition before another one has put it into the cache, and
makes a lock after the other one has taken its own off the table. -/
def overtakenSteps : List (Instant × Move) :=
  [(0, .begin "a"), (1, .advance 0), (2, .advance 0), (3, .advance 0), (4, .advance 0),
   (5, .advance 0), (6, .begin "a"), (7, .advance 1), (8, .answer 0 (.ok [])), (9, .advance 0),
   (10, .advance 0), (11, .advance 0), (12, .advance 1), (13, .advance 1), (14, .advance 1),
   (15, .advance 1)]

/-- A load of the edition after it has expired, whose call of the source fails. -/
def clearingSteps : List (Instant × Move) :=
  [(80, .begin "a"), (81, .advance 2), (82, .advance 2), (83, .advance 2), (84, .advance 2),
   (85, .advance 2), (86, .answer 2 (.error .request)), (87, .advance 2), (88, .advance 2),
   (89, .advance 2)]

theorem left_locks_cleared :
  ∃ s, (idle (.empty 60 2)).run (overtakenSteps ++ clearingSteps) = some s ∧
    s.isSettled = true ∧ "a" ∉ s.table.map Prod.fst
  := by
  obtain ⟨s, hrun⟩ : ∃ s, (idle (.empty 60 2)).run (overtakenSteps ++ clearingSteps) = some s :=
    ⟨_, rfl⟩
  have hsettled : s.isSettled = true := by
    obtain rfl := Option.some.inj hrun
    rfl
  obtain ⟨-, -, hleft⟩ := left_locks_stranded hrun (by decide) hsettled
  use s, hrun, hsettled
  rw [hleft]
  decide

/-- Both loads are done, and the lock that the second one has made is still on the table. -/
theorem lock_left_behind :
  ∃ s, (idle (.empty 60 2)).run overtakenSteps = some s ∧ s.isSettled = true ∧
    s.loads.map outcome? = [some (.ok []), some (.ok [])] ∧ s.table = [("a", 1)]
  := ⟨_, rfl, rfl, rfl, rfl⟩

end Loading

end HadithService
