import HadithService.Proofs.Editions.Recounted
import HadithService.Proofs.Editions.Vouched

/-!
# A load that is alone

A load that no other one is under way with finds its edition at its first look into the cache, or it
calls the source once and keeps the edition that comes, if one comes (`Loading.alone_cases`).
-/

namespace HadithService.Loading

variable {s t : Loading} {c : EditionCache} {calls : List String} {outcome : Fetched}
  {now : Instant} {m : Move} {i : Nat} {slug slug' : String} {steps : List (Instant × Move)}

/-- Loads that are all done take no further steps. -/
theorem eq_of_isSettled (hsettled : s.isSettled = true)
    (hsteps : ∀ step ∈ steps, step.2.load?.isSome = true) (hrun : s.run steps = some t) :
  t = s
  := by
  cases steps with
  | nil => exact (Option.some.inj hrun).symm
  | cons step steps =>
    obtain ⟨now, m⟩ := step
    obtain ⟨u, hstep, -⟩ := run_cons_eq_some_iff.mp hrun
    obtain ⟨i, hload⟩ := Option.isSome_iff_exists.mp (hsteps _ List.mem_cons_self)
    obtain ⟨slug, p, q, hi, -, hlt⟩ := hstep.exists_setPhase hload
    obtain ⟨outcome, rfl⟩ := done_of_isSettled hsettled hi
    cases hlt

/-- The cache holds what another one holds, and these are the calls of the source. -/
structure IsAt (c : EditionCache) (calls : List String) (s : Loading) : Prop where
  cache : ∃ hits misses, s.cache = c.recount hits misses
  calls : s.calls = calls

namespace IsAt

theorem congr (h : IsAt c calls s) (hcache : t.cache = s.cache) (hcalls : t.calls = s.calls) :
  IsAt c calls t
  where
    cache := by
      rw [hcache]
      apply h.cache
    calls := by
      rw [hcalls]
      apply h.calls

theorem look (h : IsAt c calls s) (slug : String) (now : Instant) :
  IsAt c calls { s with cache := (s.cache.get slug now).2 }
  where
    cache := by
      obtain ⟨hits, misses, hcache⟩ := h.cache
      obtain ⟨hits', misses', hget⟩ := s.cache.exists_get_eq slug now
      use hits', misses'
      rw [hget, hcache]
      rfl
    calls := h.calls

theorem store (h : IsAt c calls s) (slug : String) (now : Instant) (outcome : Fetched) :
  IsAt ((idle c).store slug now outcome).cache calls (s.store slug now outcome)
  := by
  cases outcome with
  | error e => apply h
  | ok hadiths =>
    obtain ⟨hits, misses, hcache⟩ := h.cache
    constructor
    · use hits, misses
      simp only [Loading.store, hcache, EditionCache.insert_recount, idle]
    · apply h.calls

theorem peek (h : IsAt c calls s) (slug : String) (now : Instant) :
  s.cache.peek slug now = c.peek slug now
  := by
  obtain ⟨hits, misses, hcache⟩ := h.cache
  rw [hcache]
  rfl

end IsAt

/-- What the source has answered to the only call is in the cache, if it was an edition. -/
structure Brought (c : EditionCache) (slug : String) (steps : List (Instant × Move))
    (outcome : Fetched) (s : Loading) : Prop where
  answer : outcome ∈ steps.filterMap fun step => step.2.answer?
  isAt : ∃ now ∈ steps.map Prod.fst, IsAt ((idle c).store slug now outcome).cache [slug] s

theorem Brought.congr (h : Brought c slug steps outcome s) (hcache : t.cache = s.cache)
    (hcalls : t.calls = s.calls) :
  Brought c slug steps outcome t
  where
    answer := h.answer
    isAt := by
      obtain ⟨now, hnow, hat⟩ := h.isAt
      use now, hnow
      apply hat.congr hcache hcalls

theorem Brought.cons (h : Brought c slug steps outcome s) (step : Instant × Move) :
  Brought c slug (step :: steps) outcome s
  where
    answer := by
      obtain ⟨step', hstep', houtcome⟩ := List.mem_filterMap.mp h.answer
      apply List.mem_filterMap.mpr
      use step', List.mem_cons_of_mem _ hstep', houtcome
    isAt := by
      obtain ⟨now, hnow, hat⟩ := h.isAt
      use now, List.mem_cons_of_mem _ hnow

/-- What a load that is alone has done by the time that it has come to a phase, if it has not found
its edition in the cache at first. -/
def Stands (c : EditionCache) (slug : String) (steps : List (Instant × Move)) (s : Loading) :
    Phase → Prop
  | .begun => False
  | .missed => IsAt c [] s
  | .found _ => IsAt c [] s
  | .waiting _ => IsAt c [] s
  | .missedAgain _ => IsAt c [] s
  | .fetching _ => IsAt c [slug] s
  | .fetched _ outcome =>
    (outcome ∈ steps.filterMap fun step => step.2.answer?) ∧ IsAt c [slug] s
  | .stored _ outcome => Brought c slug steps outcome s
  | .leaving _ outcome => Brought c slug steps outcome s
  | .done outcome => Brought c slug steps outcome s

/-- There is one load, and it stands where its phase says. -/
def Alone (c : EditionCache) (slug : String) (steps : List (Instant × Move)) (s : Loading) : Prop :=
  ∃ p, s.loads = [⟨slug, p⟩] ∧ Stands c slug steps s p

namespace Alone

theorem eq_of_getElem? {p q : Phase} (hloads : s.loads = [⟨slug, p⟩])
    (hi : s.loads[i]? = some ⟨slug', q⟩) :
  i = 0 ∧ slug' = slug ∧ q = p
  := by
  rw [hloads] at hi
  obtain ⟨hlt, heq⟩ := List.getElem?_eq_some_iff.mp hi
  have hzero : i = 0 := by simpa using hlt
  subst hzero
  obtain ⟨rfl, rfl⟩ := Load.mk.inj heq
  exact ⟨rfl, rfl, rfl⟩

theorem stands (h : Alone c slug steps s) {q : Phase} (hi : s.loads[i]? = some ⟨slug', q⟩) :
  slug' = slug ∧ Stands c slug steps s q
  := by
  obtain ⟨p, hloads, hp⟩ := h
  obtain ⟨-, rfl, rfl⟩ := eq_of_getElem? hloads hi
  use rfl, hp

theorem goOn (h : Alone c slug steps s) (p : Phase) {q : Phase}
    (hi : s.loads[i]? = some ⟨slug', q⟩) (hloads : t.loads = (s.setPhase i p).loads)
    (hp : Stands c slug steps t p) :
  Alone c slug steps t
  := by
  obtain ⟨r, hs, -⟩ := h
  obtain ⟨rfl, -, -⟩ := eq_of_getElem? hs hi
  use p
  rw [hloads, setPhase, hs]
  use rfl, hp

/-- Every step of the load keeps this, as long as the edition is not in the cache. -/
theorem step (h : Alone c slug steps s) (habsent : ∀ now ∈ steps.map Prod.fst, c.peek slug now = none)
    (hmem : (now, m) ∈ steps) (hm : m.load?.isSome = true) (hstep : Step s now m t) :
  Alone c slug steps t
  := by
  have hnow : now ∈ steps.map Prod.fst := List.mem_map_of_mem hmem
  cases hstep with
  | begin => cases hm
  | hit hi => cases (h.stands hi).2
  | miss hi => cases (h.stands hi).2
  | take hi => exact h.goOn (.found _) hi rfl ((h.stands hi).2.congr rfl rfl)
  | make hi => exact h.goOn (.found _) hi rfl ((h.stands hi).2.congr rfl rfl)
  | enqueue hi => exact h.goOn (.waiting _) hi rfl ((h.stands hi).2.congr rfl rfl)
  | hitAgain hi hhead hpeek =>
    obtain ⟨rfl, hat⟩ := h.stands hi
    rw [IsAt.peek hat, habsent now hnow] at hpeek
    cases hpeek
  | @missAgain i slug' k hi =>
    have hat := IsAt.look (h.stands hi).2 slug' now
    exact h.goOn (.missedAgain k) hi rfl (hat.congr rfl rfl)
  | call hi =>
    obtain ⟨rfl, hat⟩ := h.stands hi
    refine h.goOn (.fetching _) hi rfl ⟨hat.cache, ?_⟩
    rw [setPhase_calls, IsAt.calls hat, List.nil_append]
  | @answer i slug' k outcome hi =>
    have hanswer : outcome ∈ steps.filterMap fun step => step.2.answer? :=
      List.mem_filterMap.mpr ⟨_, hmem, rfl⟩
    exact h.goOn (.fetched k outcome) hi rfl ⟨hanswer, (h.stands hi).2.congr rfl rfl⟩
  | @store i slug' k outcome hi =>
    obtain ⟨rfl, hanswer, hat⟩ := h.stands hi
    refine h.goOn (.stored k outcome) hi ?_ ⟨hanswer, now, hnow, ?_⟩
    · rw [setPhase, setPhase, store_loads]
    · exact (hat.store slug' now outcome).congr rfl rfl
  | release hi => exact h.goOn (.leaving _ _) hi rfl ((h.stands hi).2.congr rfl rfl)
  | leave hi => exact h.goOn (.done _) hi rfl ((h.stands hi).2.congr rfl rfl)

end Alone

/-- At its first step a load finds its edition or does not. -/
theorem first_cases (hstep : Step { idle c with loads := [⟨slug, .begun⟩] } now m t)
    (hm : m.load?.isSome = true) :
  (∃ hadiths, c.peek slug now = some hadiths ∧
      t = { idle (c.get slug now).2 with loads := [⟨slug, .done (.ok hadiths)⟩] }) ∨
    (c.peek slug now = none ∧ t = { idle (c.get slug now).2 with loads := [⟨slug, .missed⟩] })
  := by
  have hmove := move_eq_some_iff.mpr hstep
  rcases m with _ | (_ | i) | (_ | i)
  · cases hm
  · obtain rfl := Option.some.inj hmove
    rw [look_eq]
    cases hpeek : c.peek slug now with
    | none =>
      right
      use rfl
      simp only [idle, hpeek]
      rfl
    | some hadiths =>
      left
      use hadiths, rfl
      simp only [idle, hpeek]
      rfl
  · cases hmove
  · cases hmove
  · cases hmove

/-- A load that has not found its edition at its first look calls the source. -/
theorem brought_of_missed (hfirst : c.peek slug now = none)
    (hsteps : ∀ step ∈ steps, now ≤ step.1 ∧ step.2.load?.isSome = true)
    (hrun : run { idle (c.get slug now).2 with loads := [⟨slug, .missed⟩] } steps = some t)
    (hsettled : t.isSettled = true) :
  ∃ outcome, t.loads = [⟨slug, .done outcome⟩] ∧ Brought c slug steps outcome t
  := by
  have habsent : ∀ now ∈ steps.map Prod.fst, c.peek slug now = none := by
    intro later hlater
    obtain ⟨step, hstep, rfl⟩ := List.mem_map.mp hlater
    apply EditionCache.peek_later hfirst (hsteps step hstep).1
  have halone : Alone c slug steps t := by
    apply run_induction (P := Alone c slug steps) _ _ hrun
    · intro now m hmem u v hu hstep
      apply hu.step habsent hmem (hsteps _ hmem).2 hstep
    · use .missed, rfl, c.exists_get_eq slug now
      rfl
  obtain ⟨p, hloads, hp⟩ := halone
  have hl : t.loads[0]? = some ⟨slug, p⟩ := by rw [hloads, List.getElem?_cons_zero]
  obtain ⟨outcome, rfl⟩ := done_of_isSettled hsettled hl
  exact ⟨outcome, hloads, hp⟩

/-- A load that is alone finds its edition at its first look, or it calls the source. -/
theorem alone_cases (hsteps : ∀ step ∈ steps, step.2.load?.isSome = true)
    (htimes : (steps.map Prod.fst).Pairwise (· ≤ ·))
    (hrun : run { idle c with loads := [⟨slug, .begun⟩] } steps = some t)
    (hsettled : t.isSettled = true) :
  ∃ first ∈ (steps.map Prod.fst).head?,
    (∃ hadiths, c.peek slug first = some hadiths ∧
      t = { idle (c.get slug first).2 with loads := [⟨slug, .done (.ok hadiths)⟩] }) ∨
    (c.peek slug first = none ∧
      ∃ outcome, t.loads = [⟨slug, .done outcome⟩] ∧ Brought c slug steps outcome t)
  := by
  cases steps with
  | nil =>
    obtain rfl := Option.some.inj hrun
    cases hsettled
  | cons step steps =>
    obtain ⟨first, m⟩ := step
    obtain ⟨u, hstep, hrun⟩ := run_cons_eq_some_iff.mp hrun
    obtain ⟨hle, htimes⟩ := List.pairwise_cons.mp htimes
    obtain ⟨hm, hsteps⟩ := List.forall_mem_cons.mp hsteps
    use first, rfl
    rcases first_cases hstep hm with ⟨hadiths, hpeek, rfl⟩ | ⟨hpeek, rfl⟩
    · left
      use hadiths, hpeek
      apply eq_of_isSettled rfl hsteps hrun
    · right
      have hrest : ∀ step ∈ steps, first ≤ step.1 ∧ step.2.load?.isSome = true :=
        fun step hstep => ⟨hle _ (List.mem_map_of_mem hstep), hsteps step hstep⟩
      obtain ⟨outcome, hloads, hbrought⟩ := brought_of_missed hpeek hrest hrun hsettled
      use hpeek, outcome, hloads
      apply hbrought.cons

end HadithService.Loading
