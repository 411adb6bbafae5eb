import HadithService.Proofs.Editions.Counting
import HadithService.Proofs.Editions.Leftovers
import HadithService.Proofs.Editions.Store

/-!
# Loads of different editions

Loads of different editions do not get in each other's way.  What one of them has not found in the
cache none of the others puts there (`Loading.Apart`), so it does not find it at its second look
either, and when they are all done they have left no lock on the table (`Loading.Apart.table_eq_nil`).
-/

namespace HadithService.Loading

variable {s t : Loading} {now last : Instant} {m : Move} {i j : Nat} {slug slug' : String}
  {steps : List (Instant × Move)}

theorem Step.distinct_cache (hstep : Step s now m t) (h : s.cache.Distinct) :
  t.cache.Distinct
  := by
  obtain hcache | ⟨slug, hcache⟩ | ⟨i, slug, k, hadiths, -, -, hcache⟩ := hstep.cache_cases
  · rw [hcache]
    apply h
  · rw [hcache]
    apply h.get
  · rw [hcache]
    apply h.insert

/-- No two loads are of the same edition, and what a load has not found in the cache is still not
there. -/
structure Apart (last : Instant) (s : Loading) : Prop where
  distinct : s.cache.Distinct
  nodup : (s.loads.map Load.slug).Nodup
  unfound : ∀ (i : Nat) (slug : String) (p : Phase), s.loads[i]? = some ⟨slug, p⟩ →
    p.seeks = true → s.cache.Lacks slug last

namespace Apart

/-- Loads that have just begun have not looked for anything. -/
theorem begun {cache : EditionCache} {slugs : List String} (hdistinct : cache.Distinct)
    (hnodup : slugs.Nodup) (last : Instant) :
  Apart last { idle cache with loads := slugs.map fun slug => ⟨slug, .begun⟩ }
  where
    distinct := hdistinct
    nodup := by
      rw [slugs_begun]
      apply hnodup
    unfound := by
      intro i slug p hi hp
      obtain ⟨slug', -, heq⟩ := List.mem_map.mp (List.mem_of_getElem? hi)
      obtain ⟨-, rfl⟩ := Load.mk.inj heq
      cases hp

theorem eq_of_slug {p q : Phase} (h : Apart last s) (hi : s.loads[i]? = some ⟨slug, p⟩)
    (hj : s.loads[j]? = some ⟨slug, q⟩) :
  i = j
  := by
  have hslug : (s.loads.map Load.slug)[i]? = (s.loads.map Load.slug)[j]? := by
    rw [List.getElem?_map, List.getElem?_map, hi, hj]
    rfl
  have hlt : i < (s.loads.map Load.slug).length := by
    rw [List.length_map]
    apply (List.getElem?_eq_some_iff.mp hi).1
  apply (List.getElem?_inj hlt h.nodup).mp hslug

/-- A load goes on.  It may change what is in the cache for its own edition, unless it still looks
for it. -/
theorem goOn (h : Apart last s) (hle : last ≤ now) (hdistinct : t.cache.Distinct) (p : Phase)
    {q : Phase} (hi : s.loads[i]? = some ⟨slug, q⟩) (hloads : t.loads = (s.setPhase i p).loads)
    (hcache : ∀ slug', slug ≠ slug' → s.cache.Lacks slug' now → t.cache.Lacks slug' now)
    (hp : p.seeks = true → t.cache.Lacks slug now) :
  Apart now t
  where
    distinct := hdistinct
    nodup := by
      rw [hloads, setPhase_slugs]
      apply h.nodup
    unfound := by
      intro j slug' r hj hr
      rw [hloads] at hj
      rcases setPhase_phase_cases hi hj with ⟨-, rfl, rfl⟩ | ⟨hji, hj⟩
      · apply hp hr
      · apply hcache slug' _ ((h.unfound j slug' r hj hr).later hle)
        rintro rfl
        apply hji (h.eq_of_slug hj hi)

/-- A load that does not look for its edition any more goes on. -/
theorem goOn_of_not_seeks (h : Apart last s) (hle : last ≤ now) (hdistinct : t.cache.Distinct)
    (p : Phase) {q : Phase} (hi : s.loads[i]? = some ⟨slug, q⟩)
    (hloads : t.loads = (s.setPhase i p).loads)
    (hcache : ∀ slug', slug ≠ slug' → s.cache.Lacks slug' now → t.cache.Lacks slug' now)
    (hp : p.seeks = false) :
  Apart now t
  := by
  apply h.goOn hle hdistinct p hi hloads hcache
  rw [hp]
  nofun

/-- Every step of a load keeps them apart. -/
theorem step (h : Apart last s) (hle : last ≤ now) (hstep : Step s now m t)
    (hm : m.load?.isSome = true) :
  Apart now t
  := by
  have hdistinct := hstep.distinct_cache h.distinct
  have hsame : ∀ slug slug', slug ≠ slug' → s.cache.Lacks slug' now → s.cache.Lacks slug' now :=
    fun _ _ _ hlacks => hlacks
  have hget : ∀ slug slug', slug ≠ slug' → s.cache.Lacks slug' now →
      (s.cache.get slug now).2.Lacks slug' now := fun slug _ _ hlacks => hlacks.get slug now
  have hseek : ∀ {i : Nat} {slug : String} {p : Phase}, s.loads[i]? = some ⟨slug, p⟩ →
      p.seeks = true → s.cache.Lacks slug now :=
    fun hi hp => (h.unfound _ _ _ hi hp).later hle
  cases hstep with
  | begin => cases hm
  | hit hi => exact h.goOn_of_not_seeks hle hdistinct (.done _) hi rfl (hget _) rfl
  | @miss i slug hi hpeek =>
    refine h.goOn hle hdistinct .missed hi rfl (hget _) fun _ => ?_
    apply (h.distinct.lacks hpeek).get slug now
  | take hi => exact h.goOn hle hdistinct (.found _) hi rfl (hsame _) fun _ => hseek hi rfl
  | make hi => exact h.goOn hle hdistinct (.found _) hi rfl (hsame _) fun _ => hseek hi rfl
  | enqueue hi => exact h.goOn hle hdistinct (.waiting _) hi rfl (hsame _) fun _ => hseek hi rfl
  | hitAgain hi => exact h.goOn_of_not_seeks hle hdistinct (.leaving _ _) hi rfl (hget _) rfl
  | missAgain hi => exact h.goOn_of_not_seeks hle hdistinct (.missedAgain _) hi rfl (hget _) rfl
  | call hi => exact h.goOn_of_not_seeks hle hdistinct (.fetching _) hi rfl (hsame _) rfl
  | answer outcome hi =>
    exact h.goOn_of_not_seeks hle hdistinct (.fetched _ outcome) hi rfl (hsame _) rfl
  | @store i slug k outcome hi =>
    refine h.goOn_of_not_seeks hle hdistinct (.stored k outcome) hi ?_ ?_ rfl
    · rw [setPhase, setPhase, store_loads]
    · intro slug' hne hlacks
      cases outcome with
      | error e => apply hlacks
      | ok hadiths => apply hlacks.insert hne
  | release hi => exact h.goOn_of_not_seeks hle hdistinct (.leaving _ _) hi rfl (hsame _) rfl
  | leave hi => exact h.goOn_of_not_seeks hle hdistinct (.done _) hi rfl (hsame _) rfl

/-- No lock is made for an edition that is in the cache. -/
theorem makesLate_eq_false (h : Apart last s) (hle : last ≤ now) (slug : String) (m : Move) :
  s.makesLate slug now m = false
  := by
  cases m with
  | begin => rfl
  | answer => rfl
  | advance i =>
    rw [makesLate]
    split
    · rename_i slug' hi
      by_cases hslug : slug' = slug
      · subst hslug
        rw [((h.unfound i slug' .missed hi rfl).later hle).peek]
        simp
      · simp [hslug]
    · rfl

/-- A run keeps loads apart, and every lock on the table will be taken off. -/
theorem run (h : Apart last s) (haccounted : ∀ slug, Accounted slug false last s)
    (hsteps : ∀ step ∈ steps, step.2.load?.isSome = true)
    (htimes : (last :: steps.map Prod.fst).Pairwise (· ≤ ·)) (hrun : s.run steps = some t) :
  ∃ last, Apart last t ∧ ∀ slug, Accounted slug false last t
  := by
  induction steps generalizing s last with
  | nil =>
    obtain rfl := Option.some.inj hrun
    use last
  | cons step steps ih =>
    obtain ⟨now, m⟩ := step
    obtain ⟨u, hstep, hrun⟩ := run_cons_eq_some_iff.mp hrun
    obtain ⟨hle, htimes⟩ := List.pairwise_cons.mp htimes
    have hnow := hle now List.mem_cons_self
    apply ih (h.step hnow hstep (hsteps _ List.mem_cons_self)) _ _ htimes hrun
    · intro slug
      have hnext := (haccounted slug).step hnow h.distinct hstep
      rwa [h.makesLate_eq_false hnow, Bool.false_and, Bool.or_self] at hnext
    · intro step hstep
      apply hsteps step (List.mem_cons_of_mem _ hstep)

/-- When they are all done, no lock is left. -/
theorem table_eq_nil (haccounted : ∀ slug, Accounted slug false last s)
    (hsettled : s.isSettled = true) :
  s.table = []
  := by
  rw [List.eq_nil_iff_forall_not_mem]
  intro e he
  have hlock : (s.lock? e.1).isSome = true := lock?_isSome_iff.mpr (List.mem_map_of_mem he)
  have hcovered := (haccounted e.1).covered hlock rfl
  rw [hcovered.not_isSettled] at hsettled
  cases hsettled

end Apart

/-- Loads of different editions that begin together in a state in which nothing is under way leave
such a state. -/
theorem settled_of_apart {cache : EditionCache} {slugs : List String} (hdistinct : cache.Distinct)
    (hnodup : slugs.Nodup) (hsteps : ∀ step ∈ steps, step.2.load?.isSome = true)
    (htimes : (steps.map Prod.fst).Pairwise (· ≤ ·))
    (hrun : run { idle cache with loads := slugs.map fun slug => ⟨slug, .begun⟩ } steps = some t)
    (hsettled : t.isSettled = true) :
  t.table = [] ∧ t.cache.Distinct
  := by
  have haccounted : ∀ slug, Accounted slug false 0
      { idle cache with loads := slugs.map fun slug => ⟨slug, .begun⟩ } := fun _ => ⟨nofun, nofun⟩
  obtain ⟨last, hapart, haccounted⟩ := (Apart.begun hdistinct hnodup 0).run haccounted hsteps
    (List.pairwise_cons.mpr ⟨fun _ _ => Nat.zero_le _, htimes⟩) hrun
  exact ⟨Apart.table_eq_nil haccounted hsettled, hapart.distinct⟩

end HadithService.Loading
