import HadithService.Proofs.Editions.Counting
import HadithService.Proofs.Editions.Leftovers
import HadithService.Proofs.Editions.Vouched

/-!
# Editions that are not in the cache

An edition that is not in the cache is only put there by a load that has got it
(`Loading.lacks_of_run`), and when loads of it have looked for it the source has been called
(`Loading.mem_calls_of_lacks`).
-/

namespace HadithService.Loading

variable {s t : Loading} {now since : Instant} {m : Move} {i : Nat} {slug slug' : String}
  {steps : List (Instant × Move)}

/-! ### What puts an edition into the cache -/

/-- A load of the edition has got it. -/
def HasGot (slug : String) (s : Loading) : Prop :=
  ∃ (i : Nat) (p : Phase) (hadiths : List Hadith),
    s.loads[i]? = some ⟨slug, p⟩ ∧ p.got? = some (.ok hadiths)

/-- A load goes on with what it has got. -/
theorem HasGot.goOn (h : HasGot slug s) {p q : Phase} (hi : s.loads[i]? = some ⟨slug', q⟩)
    (hloads : t.loads = (s.setPhase i p).loads) (hp : q.got? = none ∨ p.got? = q.got?) :
  HasGot slug t
  := by
  obtain ⟨j, r, hadiths, hj, hgot⟩ := h
  by_cases hji : j = i
  · subst hji
    obtain ⟨rfl, rfl⟩ := Load.mk.inj (Option.some.inj (hi.symm.trans hj))
    use j, p, hadiths
    rw [hloads, setPhase_self p hi]
    use rfl
    rcases hp with hp | hp
    · rw [hp] at hgot
      cases hgot
    · rw [hp, hgot]
  · use j, r, hadiths
    rw [hloads, setPhase_of_ne p hji]
    use hj, hgot

theorem HasGot.step (h : HasGot slug s) (hstep : Step s now m t) :
  HasGot slug t
  := by
  cases hstep with
  | begin =>
    obtain ⟨i, p, hadiths, hi, hgot⟩ := h
    use i, p, hadiths, (List.getElem?_append_left (List.getElem?_eq_some_iff.mp hi).1).trans hi, hgot
  | hit hi => exact h.goOn (p := .done _) hi rfl (.inl rfl)
  | miss hi => exact h.goOn (p := .missed) hi rfl (.inl rfl)
  | take hi => exact h.goOn (p := .found _) hi rfl (.inl rfl)
  | make hi => exact h.goOn (p := .found _) hi rfl (.inl rfl)
  | enqueue hi => exact h.goOn (p := .waiting _) hi rfl (.inl rfl)
  | hitAgain hi => exact h.goOn (p := .leaving _ _) hi rfl (.inl rfl)
  | missAgain hi => exact h.goOn (p := .missedAgain _) hi rfl (.inl rfl)
  | call hi => exact h.goOn (p := .fetching _) hi rfl (.inl rfl)
  | answer outcome hi => exact h.goOn (p := .fetched _ outcome) hi rfl (.inl rfl)
  | @store i slug' k outcome hi =>
    refine h.goOn (p := .stored k outcome) hi ?_ (.inr rfl)
    rw [setPhase, setPhase, store_loads]
  | release hi => exact h.goOn (p := .leaving _ _) hi rfl (.inr rfl)
  | leave hi => exact h.goOn (p := .done _) hi rfl (.inr rfl)

/-- A step puts an edition into the cache only if a load has got it. -/
theorem Step.lacks_or_hasGot (hstep : Step s now m t) (h : s.cache.Lacks slug since) :
  t.cache.Lacks slug since ∨ HasGot slug t
  := by
  obtain hcache | ⟨slug', hcache⟩ | ⟨i, slug', k, hadiths, hi, -, hcache⟩ := hstep.cache_cases
  · left
    rw [hcache]
    apply h
  · left
    rw [hcache]
    apply h.get
  · by_cases hslug : slug' = slug
    · right
      subst hslug
      apply HasGot.step _ hstep
      use i, .fetched k (.ok hadiths), hadiths, hi
      rfl
    · left
      rw [hcache]
      apply h.insert hslug

/-- An edition that no load has got is not in the cache, if it was not there before. -/
theorem lacks_of_run (h : s.cache.Lacks slug since) (hrun : s.run steps = some t)
    (hnot : ¬ HasGot slug t) :
  t.cache.Lacks slug since
  := by
  apply Or.resolve_right _ hnot
  apply run_induction (P := fun u => u.cache.Lacks slug since ∨ HasGot slug u) _ (.inl h) hrun
  intro now m _ u v hu hstep
  rcases hu with hlacks | hgot
  · apply hstep.lacks_or_hasGot hlacks
  · right
    apply hgot.step hstep

/-! ### What calls the source -/

/-- The edition is not in the cache, and all loads of it look for it. -/
structure AllLook (slug : String) (since : Instant) (s : Loading) : Prop where
  cache : s.cache.Lacks slug since
  look : ∀ (i : Nat) (p : Phase), s.loads[i]? = some ⟨slug, p⟩ → 4 < p.rank

namespace AllLook

theorem goOn (h : AllLook slug since s) {q : Phase} (p : Phase) (hi : s.loads[i]? = some ⟨slug', q⟩)
    (hloads : t.loads = (s.setPhase i p).loads) (hcache : t.cache.Lacks slug since)
    (hp : slug' = slug → 4 < p.rank) :
  AllLook slug since t
  where
    cache := hcache
    look := by
      intro j r hj
      rw [hloads] at hj
      rcases setPhase_phase_cases hi hj with ⟨-, rfl, rfl⟩ | ⟨-, hj⟩
      · apply hp rfl
      · apply h.look j r hj

/-- A load that does not look is of another edition. -/
theorem ne_of_rank (h : AllLook slug since s) {q : Phase} (hi : s.loads[i]? = some ⟨slug', q⟩)
    (hq : q.rank ≤ 4) :
  slug' ≠ slug
  := by
  rintro rfl
  apply Nat.not_lt.mpr hq (h.look i q hi)

/-- So is a load that finds its edition. -/
theorem ne_of_peek (h : AllLook slug since s) (hle : since ≤ now) {hadiths : List Hadith}
    (hpeek : s.cache.peek slug' now = some hadiths) :
  slug' ≠ slug
  := by
  rintro rfl
  rw [(h.cache.later hle).peek] at hpeek
  cases hpeek

/-- They all look for it until one of them calls the source. -/
theorem step (h : AllLook slug since s) (hle : since ≤ now) (hstep : Step s now m t) :
  slug ∈ t.calls ∨ AllLook slug since t
  := by
  have hget : ∀ slug', (s.cache.get slug' now).2.Lacks slug since := fun slug' =>
    h.cache.get slug' now
  have hother : ∀ {i : Nat} {slug' : String} {q : Phase} (p : Phase),
      s.loads[i]? = some ⟨slug', q⟩ → q.rank ≤ 4 → slug' = slug → 4 < p.rank :=
    fun _ hi hq heq => absurd heq (h.ne_of_rank hi hq)
  by_cases hcalled : slug ∈ t.calls
  · left
    apply hcalled
  right
  cases hstep with
  | begin slug' =>
    use h.cache
    intro i p hi
    rcases getElem?_begin hi with hi | rfl
    · apply h.look i p hi
    · simp [Phase.rank]
  | hit hi hpeek =>
    exact h.goOn (.done _) hi rfl (hget _) fun heq => absurd heq (h.ne_of_peek hle hpeek)
  | miss hi => exact h.goOn .missed hi rfl (hget _) fun _ => by simp [Phase.rank]
  | take hi => exact h.goOn (.found _) hi rfl h.cache fun _ => by simp [Phase.rank]
  | make hi => exact h.goOn (.found _) hi rfl h.cache fun _ => by simp [Phase.rank]
  | enqueue hi => exact h.goOn (.waiting _) hi rfl h.cache fun _ => by simp [Phase.rank]
  | hitAgain hi hhead hpeek =>
    exact h.goOn (.leaving _ _) hi rfl (hget _) fun heq => absurd heq (h.ne_of_peek hle hpeek)
  | missAgain hi => exact h.goOn (.missedAgain _) hi rfl (hget _) fun _ => by simp [Phase.rank]
  | call hi =>
    refine h.goOn (.fetching _) hi rfl h.cache ?_
    rintro rfl
    apply absurd _ hcalled
    simp
  | answer outcome hi => exact h.goOn (.fetched _ outcome) hi rfl h.cache (hother _ hi le_rfl)
  | @store i slug' k outcome hi =>
    have hrank : (Phase.fetched k outcome).rank ≤ 4 := by simp [Phase.rank]
    refine h.goOn (.stored k outcome) hi ?_ ?_ (hother _ hi hrank)
    · rw [setPhase, setPhase, store_loads]
    · cases outcome with
      | error e => apply h.cache
      | ok hadiths => apply h.cache.insert (h.ne_of_rank hi hrank)
  | release hi => exact h.goOn (.leaving _ _) hi rfl h.cache (hother _ hi (by simp [Phase.rank]))
  | leave hi => exact h.goOn (.done _) hi rfl h.cache (hother _ hi (by simp [Phase.rank]))

end AllLook

theorem Step.mem_calls (hstep : Step s now m t) (h : slug ∈ s.calls) :
  slug ∈ t.calls
  := by
  cases hstep with
  | call => exact List.mem_append_left _ h
  | @store i slug' k outcome hi =>
    rw [setPhase_calls, (store_counts s slug' now outcome).2]
    apply h
  | _ => exact h

/-- A job that loads an edition that is not in the cache calls the source for it. -/
theorem mem_calls_of_lacks {cache : EditionCache} {slugs : List String} (hslug : slug ∈ slugs)
    (hlacks : cache.Lacks slug since) (htimes : ∀ step ∈ steps, since ≤ step.1)
    (hrun : run { idle cache with loads := slugs.map fun slug => ⟨slug, .begun⟩ } steps = some t)
    (hsettled : t.isSettled = true) :
  slug ∈ t.calls
  := by
  have hend : slug ∈ t.calls ∨ AllLook slug since t := by
    apply run_induction (P := fun u => slug ∈ u.calls ∨ AllLook slug since u) _ _ hrun
    · intro now m hmem u v hu hstep
      rcases hu with hcalled | hall
      · left
        apply hstep.mem_calls hcalled
      · apply hall.step (htimes _ hmem) hstep
    · right
      use hlacks
      intro i p hi
      obtain ⟨slug', -, heq⟩ := List.mem_map.mp (List.mem_of_getElem? hi)
      obtain ⟨-, rfl⟩ := Load.mk.inj heq
      simp [Phase.rank]
  apply hend.resolve_right
  intro hall
  obtain ⟨i, hi⟩ := List.mem_iff_getElem?.mp (List.mem_map_of_mem hslug)
  obtain ⟨⟨slug', p⟩, hl, rfl⟩ := Option.map_eq_some_iff.mp (slug_of_run hrun hi)
  obtain ⟨outcome, rfl⟩ := done_of_isSettled hsettled hl
  cases hall.look i _ hl

end HadithService.Loading
