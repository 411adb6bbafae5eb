import HadithService.Proofs.Editions.Queues
import Mathlib.Data.Finset.Card
import Mathlib.Data.Finset.Dedup

/-!
# What a step leaves alone

A step is about one edition, the one that the load is for.  As long as the cache has room for
every edition that has been loaded (`Steady.room`), it leaves everything about the other editions
as it is (`Unaffected`).
-/

namespace HadithService.Loading

variable {s t : Loading} {now : Instant} {m : Move} {i j k : Nat} {slug : String}

/-! ### A cache that keeps everything -/

/-- No edition is twice in the cache, each was put there at one of the instants `T`, and each has
been loaded. -/
structure Steady (T : Instant → Prop) (s : Loading) : Prop where
  distinct : s.cache.Distinct
  instants : ∀ e ∈ s.cache.editions, T e.fetchedAt
  loaded : ∀ e ∈ s.cache.editions, e.slug ∈ s.loads.map Load.slug

namespace Steady

variable {T : Instant → Prop}

theorem idle (lifetime : Duration) (capacity : Nat) :
  Steady T (idle (.empty lifetime capacity))
  where
    distinct := EditionCache.distinct_empty lifetime capacity
    instants := by simp [Loading.idle, EditionCache.empty]
    loaded := by simp [Loading.idle, EditionCache.empty]

theorem step (h : Steady T s) (hnow : T now) (hstep : Step s now m t) :
  Steady T t
  := by
  have hsub : ∀ slug ∈ s.loads.map Load.slug, slug ∈ t.loads.map Load.slug :=
    fun _ hslug => hstep.slugs_isPrefix.subset hslug
  obtain hcache | ⟨slug, hcache⟩ | ⟨i, slug, k, hadiths, hi, -, hcache⟩ := hstep.cache_cases
  · constructor
    · rw [hcache]
      apply h.distinct
    · rw [hcache]
      apply h.instants
    · rw [hcache]
      intro e he
      apply hsub _ (h.loaded e he)
  · constructor
    · rw [hcache]
      apply h.distinct.get
    · rw [hcache, EditionCache.get_editions]
      apply h.instants
    · rw [hcache, EditionCache.get_editions]
      intro e he
      apply hsub _ (h.loaded e he)
  · constructor
    · rw [hcache]
      apply h.distinct.insert
    · rw [hcache]
      intro e he
      rcases EditionCache.mem_insert he with rfl | he
      · apply hnow
      · apply h.instants e he
    · rw [hcache]
      intro e he
      apply hsub
      rcases EditionCache.mem_insert he with rfl | he
      · apply List.mem_map_of_mem (List.mem_of_getElem? hi)
      · apply h.loaded e he

/-- There is room for every edition that has been loaded, when the cache may hold as many as have
been loaded. -/
theorem room (h : Steady T s)
    (hcapacity : (s.loads.map Load.slug).toFinset.card ≤ s.cache.capacity)
    (hslug : slug ∈ s.loads.map Load.slug) :
  s.cache.editions.length < s.cache.capacity ∨ (s.cache.find? slug).isSome
  := by
  by_cases hfind : (s.cache.find? slug).isSome
  · right
    apply hfind
  · left
    have hout : slug ∉ s.cache.editions.map CachedEdition.slug := by
      intro hmem
      obtain ⟨e, he, rfl⟩ := List.mem_map.mp hmem
      apply hfind (EditionCache.find?_isSome he)
    have hnodup : (slug :: s.cache.editions.map CachedEdition.slug).Nodup :=
      List.nodup_cons.mpr ⟨hout, h.distinct⟩
    have hsub : (slug :: s.cache.editions.map CachedEdition.slug).toFinset
        ⊆ (s.loads.map Load.slug).toFinset := by
      intro slug' hmem
      rw [List.mem_toFinset, List.mem_cons] at hmem
      rw [List.mem_toFinset]
      rcases hmem with rfl | hmem
      · apply hslug
      · obtain ⟨e, he, rfl⟩ := List.mem_map.mp hmem
        apply h.loaded e he
    have hcard := Finset.card_le_card hsub
    rw [List.toFinset_card_of_nodup hnodup, List.length_cons, List.length_map] at hcard
    omega

end Steady

/-! ### What a step leaves alone -/

/-- The edition that a move is about. -/
def subject? (s : Loading) : Move → Option String
  | .begin slug => some slug
  | .advance i => (s.loads[i]?).map Load.slug
  | .answer i _ => (s.loads[i]?).map Load.slug

theorem slug_of_subject {slug' : String} {p : Phase} (hi : s.loads[i]? = some ⟨slug', p⟩)
    (hsubject : (s.loads[i]?).map Load.slug = some slug) :
  slug' = slug
  := by
  rw [hi] at hsubject
  apply Option.some.inj hsubject

/-- Nothing about an edition differs between two states. -/
structure Unaffected (slug : String) (s t : Loading) : Prop where
  loads : ∀ (i : Nat) (p : Phase), t.loads[i]? = some ⟨slug, p⟩ ↔ s.loads[i]? = some ⟨slug, p⟩
  lock : t.lock? slug = s.lock? slug
  calls : t.calls.count slug = s.calls.count slug
  editions : ∀ e : CachedEdition, e.slug = slug → (e ∈ t.cache.editions ↔ e ∈ s.cache.editions)

namespace Unaffected

variable {slug' : String}

theorem refl (slug : String) (s : Loading) :
  Unaffected slug s s
  where
    loads _ _ := Iff.rfl
    lock := rfl
    calls := rfl
    editions _ _ := Iff.rfl

theorem setPhase {p q : Phase} (h : Unaffected slug s t) (hi : t.loads[i]? = some ⟨slug', q⟩)
    (hne : slug' ≠ slug) :
  Unaffected slug s (t.setPhase i p)
  := by
  constructor
  · intro j r
    apply Iff.trans _ (h.loads j r)
    by_cases hj : j = i
    · subst hj
      rw [setPhase_self p hi, hi]
      simp [hne]
    · rw [setPhase_of_ne p hj]
  · apply h.lock
  · apply h.calls
  · apply h.editions

theorem begin (hne : slug' ≠ slug) :
  Unaffected slug s { s with loads := s.loads ++ [⟨slug', .begun⟩] }
  := by
  refine { refl slug s with loads := ?_ }
  intro i p
  rw [List.getElem?_append]
  split
  · rfl
  · rename_i hi
    rw [List.getElem?_eq_none (Nat.not_lt.mp hi)]
    cases i - s.loads.length with
    | zero => simp [hne]
    | succ n => simp

theorem lookUp (slug slug' : String) (s : Loading) (now : Instant) :
  Unaffected slug s { s with cache := (s.cache.get slug' now).2 }
  := by
  refine { refl slug s with editions := ?_ }
  simp

theorem queues (slug : String) (s : Loading) (queues : List (List Nat)) :
  Unaffected slug s { s with queues := queues }
  := { refl slug s with }

theorem make (hne : slug' ≠ slug) (queues : List (List Nat)) :
  Unaffected slug s { s with table := (slug', k) :: s.table, queues := queues }
  := by
  refine { refl slug s with lock := ?_ }
  simp [lock?, hne]

theorem call (hne : slug' ≠ slug) :
  Unaffected slug s { s with calls := s.calls ++ [slug'] }
  := by
  refine { refl slug s with calls := ?_ }
  rw [List.count_append, List.count_singleton, if_neg (by simpa using hne), Nat.add_zero]

theorem store (hne : slug' ≠ slug) (outcome : Fetched)
    (hroom : s.cache.editions.length < s.cache.capacity ∨ (s.cache.find? slug').isSome) :
  Unaffected slug s (s.store slug' now outcome)
  := by
  cases outcome with
  | error e => apply refl
  | ok hadiths =>
    refine { refl slug s with editions := ?_ }
    intro e he
    rw [Loading.store, EditionCache.insert_editions_of_room hroom, List.mem_append]
    constructor
    · rintro (hmem | hmem)
      · apply (EditionCache.remove_sublist _ _).subset hmem
      · rw [List.mem_singleton.mp hmem] at he
        cases hne he
    · intro hmem
      left
      apply EditionCache.mem_remove hmem
      rw [he]
      apply hne.symm

theorem release (hne : slug' ≠ slug) :
  Unaffected slug s { s with table := s.table.filter fun e => e.1 != slug' }
  := { refl slug s with lock := lock?_release_of_ne hne }

/-- A step of another edition does not matter to an edition, as long as nothing is driven out of
the cache. -/
theorem of_step (h : Step s now m t) (hsubject : s.subject? m ≠ some slug)
    (hroom : ∀ slug' ∈ s.loads.map Load.slug,
      s.cache.editions.length < s.cache.capacity ∨ (s.cache.find? slug').isSome) :
  Unaffected slug s t
  := by
  have hother : ∀ {i : Nat} {slug' : String} {p : Phase}, s.loads[i]? = some ⟨slug', p⟩ →
      (s.loads[i]?).map Load.slug ≠ some slug → slug' ≠ slug := by
    rintro i slug' p hi hs rfl
    apply hs
    rw [hi]
    rfl
  cases h with
  | begin slug' => apply begin fun heq => hsubject (congrArg some heq)
  | hit hi => exact (lookUp _ _ s now).setPhase hi (hother hi hsubject)
  | miss hi => exact (lookUp _ _ s now).setPhase hi (hother hi hsubject)
  | take hi => exact (refl _ s).setPhase hi (hother hi hsubject)
  | make hi => exact (make (hother hi hsubject) _).setPhase hi (hother hi hsubject)
  | enqueue hi => exact (queues _ s _).setPhase hi (hother hi hsubject)
  | hitAgain hi => exact (lookUp _ _ s now).setPhase hi (hother hi hsubject)
  | missAgain hi => exact (lookUp _ _ s now).setPhase hi (hother hi hsubject)
  | call hi => exact (call (hother hi hsubject)).setPhase hi (hother hi hsubject)
  | answer outcome hi => exact (refl _ s).setPhase hi (hother hi hsubject)
  | @store i slug' k outcome hi =>
    have hne := hother hi hsubject
    have hroom := hroom slug' (List.mem_map_of_mem (List.mem_of_getElem? hi))
    rw [← s.store_loads slug' now outcome] at hi
    exact (store hne outcome hroom).setPhase hi hne
  | release hi => exact (release (hother hi hsubject)).setPhase hi (hother hi hsubject)
  | leave hi => exact (queues _ s _).setPhase hi (hother hi hsubject)

end Unaffected

end HadithService.Loading
