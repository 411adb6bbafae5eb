import HadithService.Proofs.Editions.Counting

/-!
# The counts do not matter

How often somebody has looked into the cache is counted and told, but nothing depends on it: with
other counts the same steps can be taken, and they lead to the same states but for the counts
(`Loading.exists_run_recount`).
-/

namespace HadithService

namespace EditionCache

variable {c : EditionCache} {slug : String} {hadiths : List Hadith} {now : Instant}

/-- The same cache with other counts. -/
def recount (c : EditionCache) (hits misses : UInt64) : EditionCache :=
  { c with hits := hits, misses := misses }

/-- Looking an edition up changes the counts only. -/
theorem exists_get_eq (c : EditionCache) (slug : String) (now : Instant) :
  ∃ hits misses, (c.get slug now).2 = c.recount hits misses
  := by
  cases hpeek : c.peek slug now with
  | none => exact ⟨_, _, get_of_none hpeek⟩
  | some hadiths => exact ⟨_, _, get_of_some hpeek⟩

theorem exists_get_recount (c : EditionCache) (slug : String) (now : Instant) (hits misses : UInt64) :
  ∃ hits' misses',
    ((c.recount hits misses).get slug now).2 = (c.get slug now).2.recount hits' misses'
  := by
  obtain ⟨hits', misses', hget⟩ := (c.recount hits misses).exists_get_eq slug now
  obtain ⟨_, _, hget'⟩ := c.exists_get_eq slug now
  use hits', misses'
  rw [hget, hget']
  rfl

theorem makeRoom_recount (c : EditionCache) (now : Instant) (hits misses : UInt64) :
  (c.recount hits misses).makeRoom now = (c.makeRoom now).recount hits misses
  := by
  have hpruned : (c.recount hits misses).prune now = (c.prune now).recount hits misses := rfl
  have hcapacity : (c.recount hits misses).capacity = c.capacity := rfl
  have heditions : ((c.prune now).recount hits misses).editions = (c.prune now).editions := rfl
  simp only [makeRoom, hpruned, hcapacity, heditions]
  split
  · rfl
  · cases oldest? (c.prune now).editions with
    | none => rfl
    | some e => rfl

/-- An insertion does not depend on the counts. -/
theorem insert_recount (c : EditionCache) (slug : String) (hadiths : List Hadith) (now : Instant)
    (hits misses : UInt64) :
  (c.recount hits misses).insert slug hadiths now = (c.insert slug hadiths now).recount hits misses
  := by
  have hcapacity : (c.recount hits misses).capacity = c.capacity := rfl
  have heditions : (c.recount hits misses).editions = c.editions := rfl
  have hfind : (c.recount hits misses).find? slug = c.find? slug := rfl
  rw [insert, insert, hcapacity, heditions, hfind, makeRoom_recount]
  split
  · rfl
  · rfl

end EditionCache

namespace Loading

variable {s t : Loading} {now : Instant} {m : Move} {steps : List (Instant × Move)}

/-- The same state with other counts. -/
def recount (s : Loading) (hits misses : UInt64) : Loading :=
  { s with cache := s.cache.recount hits misses }

theorem exists_lookUp_recount (s : Loading) (slug : String) (now : Instant) (hits misses : UInt64) :
  ∃ hits' misses',
    { s.recount hits misses with cache := ((s.recount hits misses).cache.get slug now).2 }
      = { s with cache := (s.cache.get slug now).2 }.recount hits' misses'
  := by
  obtain ⟨hits', misses', hget⟩ := s.cache.exists_get_recount slug now hits misses
  use hits', misses'
  rw [recount, recount, hget]

theorem store_recount (s : Loading) (slug : String) (now : Instant) (outcome : Fetched)
    (hits misses : UInt64) :
  (s.recount hits misses).store slug now outcome = (s.store slug now outcome).recount hits misses
  := by
  cases outcome with
  | error e => rfl
  | ok hadiths => simp only [store, recount, EditionCache.insert_recount]

/-- A step can be taken with other counts as well. -/
theorem Step.exists_recount (hstep : Step s now m t) (hits misses : UInt64) :
  ∃ hits' misses', Step (s.recount hits misses) now m (t.recount hits' misses')
  := by
  have hlook : ∀ slug i p {m}, Step (s.recount hits misses) now m
      ({ s.recount hits misses with
          cache := ((s.recount hits misses).cache.get slug now).2 }.setPhase i p) →
      ∃ hits' misses', Step (s.recount hits misses) now m
        (({ s with cache := (s.cache.get slug now).2 }.setPhase i p).recount hits' misses') := by
    intro slug i p m hstep
    obtain ⟨hits', misses', hlookUp⟩ := s.exists_lookUp_recount slug now hits misses
    rw [hlookUp] at hstep
    exact ⟨hits', misses', hstep⟩
  cases hstep with
  | begin slug => exact ⟨hits, misses, .begin slug⟩
  | hit hi hpeek => exact hlook _ _ _ (.hit hi hpeek)
  | miss hi hpeek => exact hlook _ _ _ (.miss hi hpeek)
  | take hi hlock => exact ⟨hits, misses, .take hi hlock⟩
  | make hi hlock => exact ⟨hits, misses, .make hi hlock⟩
  | enqueue hi => exact ⟨hits, misses, .enqueue hi⟩
  | hitAgain hi hhead hpeek => exact hlook _ _ _ (.hitAgain hi hhead hpeek)
  | missAgain hi hhead hpeek => exact hlook _ _ _ (.missAgain hi hhead hpeek)
  | call hi => exact ⟨hits, misses, .call hi⟩
  | answer outcome hi => exact ⟨hits, misses, .answer outcome hi⟩
  | @store i slug k outcome hi =>
    have hstep : Step (s.recount hits misses) now (.advance i)
        (((s.recount hits misses).store slug now outcome).setPhase i (.stored k outcome)) := .store hi
    rw [store_recount] at hstep
    exact ⟨hits, misses, hstep⟩
  | release hi => exact ⟨hits, misses, .release hi⟩
  | leave hi => exact ⟨hits, misses, .leave hi⟩

/-- So can all steps of a run. -/
theorem exists_run_recount (hrun : s.run steps = some t) (hits misses : UInt64) :
  ∃ hits' misses', (s.recount hits misses).run steps = some (t.recount hits' misses')
  := by
  induction steps generalizing s hits misses with
  | nil =>
    obtain rfl := Option.some.inj hrun
    exact ⟨hits, misses, rfl⟩
  | cons step steps ih =>
    obtain ⟨now, m⟩ := step
    obtain ⟨u, hstep, hrun⟩ := run_cons_eq_some_iff.mp hrun
    obtain ⟨hits', misses', hstep'⟩ := hstep.exists_recount hits misses
    obtain ⟨hits'', misses'', hrun'⟩ := ih hrun hits' misses'
    exact ⟨hits'', misses'', run_cons_eq_some_iff.mpr ⟨_, hstep', hrun'⟩⟩

end Loading

end HadithService
