import HadithService.Editions.Loading
import HadithService.Proofs.Editions.Cache

/-!
# The steps of loads

`Loading.Step` lists the steps that loads can take, one rule for each thing that can happen, and
`Loading.move_eq_some_iff` says that `Loading.move` takes exactly these.  What every step keeps
holds after every run: `Loading.run_induction`.
-/

namespace HadithService.Loading

variable {s t : Loading} {now : Instant} {m : Move} {i j k : Nat} {slug : String}

/-! ### Putting a load into a phase -/

section SetPhase

variable (s : Loading) (i : Nat) (p : Phase)

@[simp]
theorem setPhase_cache :
  (s.setPhase i p).cache = s.cache
  := rfl

@[simp]
theorem setPhase_table :
  (s.setPhase i p).table = s.table
  := rfl

@[simp]
theorem setPhase_queues :
  (s.setPhase i p).queues = s.queues
  := rfl

@[simp]
theorem setPhase_calls :
  (s.setPhase i p).calls = s.calls
  := rfl

@[simp]
theorem setPhase_slugs :
  (s.setPhase i p).loads.map Load.slug = s.loads.map Load.slug
  := by
  apply List.ext_getElem?
  intro j
  simp only [setPhase, List.getElem?_map, List.getElem?_modify]
  split
  · cases s.loads[j]? with
    | none => rfl
    | some l => rfl
  · cases s.loads[j]? with
    | none => rfl
    | some l => rfl

end SetPhase

@[simp]
theorem store_loads (s : Loading) (slug : String) (now : Instant) (outcome : Fetched) :
  (s.store slug now outcome).loads = s.loads
  := by
  cases outcome with
  | error e => rfl
  | ok hadiths => rfl

/-- Taking a lock off the table leaves the locks of the other editions. -/
theorem lock?_release_of_ne {slug' : String} (h : slug' ≠ slug) :
  lock? { s with table := s.table.filter fun e => e.1 != slug' } slug = s.lock? slug
  := by
  rw [lock?, lock?, List.find?_filter]
  congr 2
  funext e
  by_cases he : e.1 = slug
  · simp [he, h.symm]
  · simp [he]

theorem setPhase_self {q : Phase} (p : Phase) (hi : s.loads[i]? = some ⟨slug, q⟩) :
  (s.setPhase i p).loads[i]? = some ⟨slug, p⟩
  := by
  simp [setPhase, hi]

theorem setPhase_of_ne (p : Phase) (h : j ≠ i) :
  (s.setPhase i p).loads[j]? = s.loads[j]?
  := by
  simp [setPhase, h.symm]

/-- A load after one was put into a phase is that one or was there before. -/
theorem setPhase_cases {p q : Phase} {l : Load} (hi : s.loads[i]? = some ⟨slug, q⟩)
    (hl : (s.setPhase i p).loads[j]? = some l) :
  (j = i ∧ l = ⟨slug, p⟩) ∨ (j ≠ i ∧ s.loads[j]? = some l)
  := by
  by_cases h : j = i
  · subst h
    rw [setPhase_self p hi] at hl
    left
    use rfl, (Option.some.inj hl).symm
  · rw [setPhase_of_ne p h] at hl
    right
    use h, hl

/-- The phase of a load after one was put into a phase. -/
theorem setPhase_phase_cases {p q r : Phase} {slug' : String}
    (hi : s.loads[i]? = some ⟨slug, q⟩) (hj : (s.setPhase i p).loads[j]? = some ⟨slug', r⟩) :
  (j = i ∧ slug' = slug ∧ r = p) ∨ (j ≠ i ∧ s.loads[j]? = some ⟨slug', r⟩)
  := by
  rcases setPhase_cases hi hj with ⟨hji, heq⟩ | ⟨hji, hj⟩
  · left
    use hji
    apply Load.mk.inj heq
  · right
    use hji, hj

theorem slugs_begun (slugs : List String) :
  (slugs.map fun slug => (⟨slug, .begun⟩ : Load)).map Load.slug = slugs
  := by
  rw [List.map_map]
  apply List.map_id

/-- A load after others have begun is one of them or was there before. -/
theorem getElem?_begun {slugs : List String} {l : Load}
    (hl : (s.loads ++ slugs.map fun slug => ⟨slug, .begun⟩)[i]? = some l) :
  s.loads[i]? = some l ∨ ∃ slug ∈ slugs, l = ⟨slug, .begun⟩
  := by
  rw [List.getElem?_append] at hl
  split at hl
  · left
    apply hl
  · obtain ⟨slug, hslug, rfl⟩ := List.mem_map.mp (List.mem_of_getElem? hl)
    right
    use slug, hslug

/-- A load after another one has begun is the new one or was there before. -/
theorem getElem?_begin {slug' : String} {p : Phase}
    (hi : (s.loads ++ [⟨slug', .begun⟩])[i]? = some ⟨slug, p⟩) :
  s.loads[i]? = some ⟨slug, p⟩ ∨ p = .begun
  := by
  have hcases := @getElem?_begun s i [slug'] ⟨slug, p⟩ hi
  apply hcases.imp_right
  rintro ⟨_, -, heq⟩
  apply (Load.mk.inj heq).2

/-! ### The rules -/

/-- The steps that loads can take at an instant. -/
inductive Step (s : Loading) (now : Instant) : Move → Loading → Prop where
  /-- A load begins. -/
  | begin (slug : String) : Step s now (.begin slug) { s with loads := s.loads ++ [⟨slug, .begun⟩] }
  /-- The edition is in the cache. -/
  | hit {i : Nat} {slug : String} {hadiths : List Hadith}
      (hi : s.loads[i]? = some ⟨slug, .begun⟩) (hpeek : s.cache.peek slug now = some hadiths) :
      Step s now (.advance i)
        ({ s with cache := (s.cache.get slug now).2 }.setPhase i (.done (.ok hadiths)))
  /-- The edition is not in the cache. -/
  | miss {i : Nat} {slug : String} (hi : s.loads[i]? = some ⟨slug, .begun⟩)
      (hpeek : s.cache.peek slug now = none) :
      Step s now (.advance i) ({ s with cache := (s.cache.get slug now).2 }.setPhase i .missed)
  /-- The lock of the edition is on the table. -/
  | take {i : Nat} {slug : String} {k : Nat} (hi : s.loads[i]? = some ⟨slug, .missed⟩)
      (hlock : s.lock? slug = some k) : Step s now (.advance i) (s.setPhase i (.found k))
  /-- The edition gets a new lock. -/
  | make {i : Nat} {slug : String} (hi : s.loads[i]? = some ⟨slug, .missed⟩)
      (hlock : s.lock? slug = none) :
      Step s now (.advance i)
        ({ s with
            table := (slug, s.queues.length) :: s.table
            queues := s.queues ++ [[]] }.setPhase i (.found s.queues.length))
  /-- The load queues up. -/
  | enqueue {i : Nat} {slug : String} {k : Nat} (hi : s.loads[i]? = some ⟨slug, .found k⟩) :
      Step s now (.advance i)
        ({ s with queues := s.queues.modify k (· ++ [i]) }.setPhase i (.waiting k))
  /-- The head of a queue finds the edition in the cache. -/
  | hitAgain {i : Nat} {slug : String} {k : Nat} {hadiths : List Hadith}
      (hi : s.loads[i]? = some ⟨slug, .waiting k⟩) (hhead : s.holds i k = true)
      (hpeek : s.cache.peek slug now = some hadiths) :
      Step s now (.advance i)
        ({ s with cache := (s.cache.get slug now).2 }.setPhase i (.leaving k (.ok hadiths)))
  /-- The head of a queue does not find the edition in the cache. -/
  | missAgain {i : Nat} {slug : String} {k : Nat} (hi : s.loads[i]? = some ⟨slug, .waiting k⟩)
      (hhead : s.holds i k = true) (hpeek : s.cache.peek slug now = none) :
      Step s now (.advance i)
        ({ s with cache := (s.cache.get slug now).2 }.setPhase i (.missedAgain k))
  /-- The source is called. -/
  | call {i : Nat} {slug : String} {k : Nat} (hi : s.loads[i]? = some ⟨slug, .missedAgain k⟩) :
      Step s now (.advance i) ({ s with calls := s.calls ++ [slug] }.setPhase i (.fetching k))
  /-- The source answers. -/
  | answer {i : Nat} {slug : String} {k : Nat} (outcome : Fetched)
      (hi : s.loads[i]? = some ⟨slug, .fetching k⟩) :
      Step s now (.answer i outcome) (s.setPhase i (.fetched k outcome))
  /-- An edition that came is put into the cache. -/
  | store {i : Nat} {slug : String} {k : Nat} {outcome : Fetched}
      (hi : s.loads[i]? = some ⟨slug, .fetched k outcome⟩) :
      Step s now (.advance i) ((s.store slug now outcome).setPhase i (.stored k outcome))
  /-- The lock of the edition is taken off the table. -/
  | release {i : Nat} {slug : String} {k : Nat} {outcome : Fetched}
      (hi : s.loads[i]? = some ⟨slug, .stored k outcome⟩) :
      Step s now (.advance i)
        ({ s with table := s.table.filter fun t => t.1 != slug }.setPhase i (.leaving k outcome))
  /-- The load leaves its queue. -/
  | leave {i : Nat} {slug : String} {k : Nat} {outcome : Fetched}
      (hi : s.loads[i]? = some ⟨slug, .leaving k outcome⟩) :
      Step s now (.advance i)
        ({ s with queues := s.queues.modify k List.tail }.setPhase i (.done outcome))

theorem look_eq (s : Loading) (i : Nat) (slug : String) (now : Instant)
    (hit : List Hadith → Phase) (miss : Phase) :
  s.look i slug now hit miss
    = { s with cache := (s.cache.get slug now).2 }.setPhase i
        (((s.cache.peek slug now).map hit).getD miss)
  := by
  rw [look, ← EditionCache.get_fst]
  rcases s.cache.get slug now with ⟨_ | hadiths, cache⟩
  · rfl
  · rfl

/-- A step that a load takes by itself follows a rule. -/
theorem step_of_advance (h : s.advance now i = some t) :
  Step s now (.advance i) t
  := by
  rw [advance] at h
  rcases hl : s.loads[i]? with _ | ⟨slug, p⟩
  · simp [hl] at h
  · rw [hl] at h
    cases p with
    | begun =>
      obtain rfl := Option.some.inj h
      rw [look_eq]
      rcases hpeek : s.cache.peek slug now with _ | hadiths
      · apply Step.miss hl hpeek
      · apply Step.hit hl hpeek
    | missed =>
      obtain rfl := Option.some.inj h
      rcases hlock : s.lock? slug with _ | k
      · simp only [takeLock, hlock]
        apply Step.make hl hlock
      · simp only [takeLock, hlock]
        apply Step.take hl hlock
    | found k =>
      obtain rfl := Option.some.inj h
      apply Step.enqueue hl
    | waiting k =>
      cases hhead : s.holds i k with
      | false => simp [hhead] at h
      | true =>
        simp only [hhead, if_true] at h
        obtain rfl := Option.some.inj h
        rw [look_eq]
        rcases hpeek : s.cache.peek slug now with _ | hadiths
        · apply Step.missAgain hl hhead hpeek
        · apply Step.hitAgain hl hhead hpeek
    | missedAgain k =>
      obtain rfl := Option.some.inj h
      apply Step.call hl
    | fetching k => cases h
    | fetched k outcome =>
      obtain rfl := Option.some.inj h
      apply Step.store hl
    | stored k outcome =>
      obtain rfl := Option.some.inj h
      apply Step.release hl
    | leaving k outcome =>
      obtain rfl := Option.some.inj h
      apply Step.leave hl
    | done outcome => cases h

/-- An answer of the source follows a rule. -/
theorem step_of_answer {outcome : Fetched} (h : s.answer i outcome = some t) :
  Step s now (.answer i outcome) t
  := by
  rw [answer] at h
  rcases hl : s.loads[i]? with _ | ⟨slug, p⟩
  · simp [hl] at h
  · rw [hl] at h
    cases p with
    | fetching k =>
      obtain rfl := Option.some.inj h
      apply Step.answer outcome hl
    | _ => cases h

/-- The steps that can be taken are those of the rules. -/
theorem move_eq_some_iff :
  s.move now m = some t ↔ Step s now m t
  := by
  constructor
  · intro h
    cases m with
    | begin slug =>
      obtain rfl := Option.some.inj h
      apply Step.begin
    | advance i => apply step_of_advance h
    | answer i outcome => apply step_of_answer h
  · intro h
    cases h with
    | begin => rfl
    | hit hi hpeek => simp [move, advance, hi, look_eq, hpeek]
    | miss hi hpeek => simp [move, advance, hi, look_eq, hpeek]
    | take hi hlock => simp [move, advance, hi, takeLock, hlock]
    | make hi hlock => simp [move, advance, hi, takeLock, hlock]
    | enqueue hi => simp [move, advance, hi]
    | hitAgain hi hhead hpeek => simp [move, advance, hi, hhead, look_eq, hpeek]
    | missAgain hi hhead hpeek => simp [move, advance, hi, hhead, look_eq, hpeek]
    | call hi => simp [move, advance, hi]
    | answer outcome hi => simp [move, answer, hi]
    | store hi => simp [move, advance, hi]
    | release hi => simp [move, advance, hi]
    | leave hi => simp [move, advance, hi]

/-- What a step does to the cache: nothing, a lookup, or an insertion of what the source has
answered. -/
theorem Step.cache_cases (h : Step s now m t) :
  t.cache = s.cache ∨ (∃ slug, t.cache = (s.cache.get slug now).2) ∨
    ∃ i slug k hadiths, s.loads[i]? = some ⟨slug, .fetched k (.ok hadiths)⟩ ∧
      m = .advance i ∧ t.cache = s.cache.insert slug hadiths now
  := by
  cases h with
  | hit =>
    rename_i slug _ _ _
    right
    left
    use slug
    rfl
  | miss =>
    rename_i slug _ _
    right
    left
    use slug
    rfl
  | hitAgain =>
    rename_i slug _ _ _ _ _
    right
    left
    use slug
    rfl
  | missAgain =>
    rename_i slug _ _ _ _
    right
    left
    use slug
    rfl
  | store hi =>
    rename_i i slug k outcome
    cases outcome with
    | error e =>
      left
      rfl
    | ok hadiths =>
      right
      right
      use i, slug, k, hadiths, hi, rfl
      rfl
  | _ =>
    left
    rfl

/-- A step changes what is in the cache and what has been counted only. -/
theorem Step.sameLimits (h : Step s now m t) :
  t.cache.SameLimits s.cache
  := by
  obtain hcache | ⟨slug, hcache⟩ | ⟨i, slug, k, hadiths, -, -, hcache⟩ := h.cache_cases
  · rw [hcache]
    apply EditionCache.SameLimits.refl
  · rw [hcache]
    apply EditionCache.SameLimits.get
  · rw [hcache]
    apply EditionCache.SameLimits.insert

/-! ### Runs -/

theorem run_cons_eq_some_iff {steps : List (Instant × Move)} :
  s.run ((now, m) :: steps) = some t ↔ ∃ u, Step s now m u ∧ u.run steps = some t
  := by
  rw [run, Option.bind_eq_some_iff]
  simp only [move_eq_some_iff]

/-- When every load is done, each of them is. -/
theorem done_of_isSettled {p : Phase} (h : s.isSettled = true) (hi : s.loads[i]? = some ⟨slug, p⟩) :
  ∃ outcome, p = .done outcome
  := by
  have hsome := List.all_eq_true.mp h _ (List.mem_of_getElem? hi)
  cases p with
  | done outcome => use outcome
  | _ => cases hsome

/-- What every step of a run keeps holds after the run. -/
theorem run_induction {P : Loading → Prop} {steps : List (Instant × Move)}
    (hstep : ∀ now m, (now, m) ∈ steps → ∀ s t, P s → Step s now m t → P t)
    (hs : P s) (hrun : s.run steps = some t) :
  P t
  := by
  induction steps generalizing s with
  | nil =>
    obtain rfl := Option.some.inj hrun
    apply hs
  | cons step steps ih =>
    obtain ⟨now, m⟩ := step
    obtain ⟨u, hu, hrun⟩ := run_cons_eq_some_iff.mp hrun
    apply ih (fun now m hmem => hstep now m (List.mem_cons_of_mem _ hmem)) _ hrun
    apply hstep now m List.mem_cons_self s u hs hu

/-- The identifiers of the loads stay, and those of new loads come after them. -/
theorem Step.slugs_isPrefix (h : Step s now m t) :
  s.loads.map Load.slug <+: t.loads.map Load.slug
  := by
  cases h with
  | begin slug => simp
  | store hi =>
    rename_i outcome
    cases outcome with
    | error e => simp [Loading.store]
    | ok hadiths => simp [Loading.store]
  | _ => simp

theorem slugs_isPrefix {steps : List (Instant × Move)} (hrun : s.run steps = some t) :
  s.loads.map Load.slug <+: t.loads.map Load.slug
  := by
  apply run_induction (P := fun u => s.loads.map Load.slug <+: u.loads.map Load.slug) _ _ hrun
  · intro now m _ u v hu hstep
    apply hu.trans hstep.slugs_isPrefix
  · apply List.prefix_refl

/-- A load keeps its identifier. -/
theorem slug_of_run {steps : List (Instant × Move)} {l : Load} (hrun : s.run steps = some t)
    (hl : s.loads[i]? = some l) :
  (t.loads[i]?).map Load.slug = some l.slug
  := by
  have hget : (s.loads.map Load.slug)[i]? = some l.slug := by simp [hl]
  obtain ⟨rest, hrest⟩ := slugs_isPrefix hrun
  have hlt := (List.getElem?_eq_some_iff.mp hget).1
  rw [← List.getElem?_map, ← hrest, List.getElem?_append_left hlt, hget]

end HadithService.Loading
