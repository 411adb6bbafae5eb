import HadithService.Proofs.Editions.Rounds
import Mathlib.Data.List.Forall2

/-!
# Loading editions together

A store between two sets of loads has nobody in its queues, and in its cache only what the source
vouches for (`EditionStore.Vouched`).  From such a store every edition is loaded as the source
vouches for it, whatever else is in the store, and what is left is such a store again.  When the
source always answers the same, these are the editions that it has (`EditionStore.Sound`).
-/

namespace HadithService

namespace Loading

variable {s t : Loading} {now : Instant} {m : Move} {i : Nat}

/-- What stays when every load is done is in order. -/
theorem Orderly.settled (h : Orderly s) (hs : s.isSettled = true) :
  Orderly s.settled
  := by
  have hempty : ∀ k, s.queue k = [] := by
    intro k
    apply List.eq_nil_iff_forall_not_mem.mpr
    intro i hi
    obtain ⟨⟨slug, p⟩, hl, hk⟩ := (h.mem_queue_iff i k).mp hi
    obtain ⟨outcome, rfl⟩ := done_of_isSettled hs hl
    cases hk
  have hqueue : ∀ k, s.settled.queue k = [] := by
    intro k
    rw [Loading.settled, queue]
    split
    · rfl
    · apply hempty k
  constructor
  · intro e he
    have hne : s.table.isEmpty ≠ true := by
      intro hnil
      apply List.ne_nil_of_mem he (List.isEmpty_iff.mp hnil)
    rw [Loading.settled, if_neg hne]
    apply h.lt_of_table e he
  · intro i l k hl
    cases hl
  · intro i k
    rw [hqueue]
    simp [Loading.settled]
  · intro k
    rw [hqueue]
    apply List.nodup_nil
  · intro i l k hl
    cases hl

theorem Step.slugs_eq (h : Step s now m t) (hload : m.load? = some i) :
  t.loads.map Load.slug = s.loads.map Load.slug
  := by
  obtain ⟨slug, p, q, -, hloads, -⟩ := h.exists_setPhase hload
  rw [hloads, setPhase_slugs]

end Loading

namespace EditionStore

variable {source : EditionSource} {edition : String → Fetched} {s : EditionStore}
  {Q : String → Fetched → Prop} {slugs : List String}

/-! ### What the source vouches for -/

/-- Nobody waits, and what is in the cache has the property. -/
structure Vouched (Q : String → Fetched → Prop) (s : EditionStore) : Prop where
  idle : s.loading.loads = []
  orderly : s.loading.Orderly
  cache : s.cache.Vouched Q

namespace Vouched

theorem empty (Q : String → Fetched → Prop) (lifetime : Duration) (capacity : Nat) :
  (empty lifetime capacity).Vouched Q
  where
    idle := rfl
    orderly := Loading.Orderly.idle _
    cache := EditionCache.Vouched.empty lifetime capacity

theorem wait (h : s.Vouched Q) (now : Instant) :
  (s.wait now).Vouched Q
  := { h with }

/-- Loads that are begun together in a store with nobody waiting are all done in the end.  If what
the source has for them has a property, so has what is loaded and left in the cache. -/
theorem settle (h : s.Vouched Q) (hsource : ∀ slug ∈ slugs, Q slug (source.edition slug)) :
  let loads := slugs.map fun slug => ⟨slug, .begun⟩
  let r := Rounds.settle source (Rounds.enough source loads)
    ⟨{ s.loading with loads := loads, calls := [] }, s.clock, []⟩
  r.loading.isSettled = true ∧ r.loading.Orderly ∧ r.loading.Vouched Q ∧
    r.loading.loads.map Load.slug = slugs
  := by
  intro loads r
  have horderly : Loading.Orderly { s.loading with loads := loads, calls := [] } := by
    have hloads : loads = s.loading.loads ++ loads := by simp [h.idle]
    exact (h.orderly.begin slugs).of_eq hloads rfl fun _ he => he
  have hvouched : Loading.Vouched Q { s.loading with loads := loads, calls := [] } := by
    constructor
    · apply h.cache
    · intro i l outcome hl hgot
      obtain ⟨slug, -, rfl⟩ := List.mem_map.mp (List.mem_of_getElem? hl)
      cases hgot
  constructor
  · apply Rounds.isSettled_settle horderly
    apply Nat.le_of_lt
    apply Rounds.total_lt_enough
  · apply Rounds.settle_induction (P := fun t => t.Orderly ∧ t.Vouched Q ∧
      t.loads.map Load.slug = slugs)
    · rintro now m i s t hload hstep htrue ⟨hs, hv, hslugs⟩
      have hanswers : Loading.Answers Q s m := by
        intro j outcome hm l hl
        rw [htrue j outcome hm l hl]
        apply hsource
        rw [← hslugs]
        apply List.mem_map_of_mem (List.mem_of_getElem? hl)
      use hs.step hstep, hv.step hstep hanswers
      rw [hstep.slugs_eq hload, hslugs]
    · use horderly, hvouched, Loading.slugs_begun slugs

/-- What is loaded for an edition has the property. -/
theorem loadAll_fst (h : s.Vouched Q) (hsource : ∀ slug ∈ slugs, Q slug (source.edition slug)) :
  List.Forall₂ Q slugs (s.loadAll source slugs).1
  := by
  obtain ⟨hsettled, -, hvouched, hslugs⟩ := h.settle hsource
  rw [loadAll]
  conv_lhs => rw [← hslugs]
  rw [List.forall₂_map_left_iff, List.forall₂_map_right_iff, List.forall₂_same]
  intro l hl
  obtain ⟨outcome, houtcome⟩ := Option.isSome_iff_exists.mp (List.all_eq_true.mp hsettled l hl)
  rw [houtcome, Option.getD_some]
  apply hvouched.outcome hl houtcome

theorem loadAll (h : s.Vouched Q) (hsource : ∀ slug ∈ slugs, Q slug (source.edition slug)) :
  (s.loadAll source slugs).2.2.Vouched Q
  := by
  obtain ⟨hsettled, horderly, hvouched, -⟩ := h.settle hsource
  constructor
  · rfl
  · apply horderly.settled hsettled
  · apply hvouched.cache

end Vouched

/-! ### What the source has -/

/-- Nobody waits, and the cache holds what the source has. -/
structure Sound (edition : String → Fetched) (s : EditionStore) : Prop where
  idle : s.loading.loads = []
  orderly : s.loading.Orderly
  faithful : s.cache.Faithful edition

theorem sound_iff :
  s.Sound edition ↔ s.Vouched (IsOf edition)
  := ⟨fun h => ⟨h.idle, h.orderly, EditionCache.faithful_iff.mp h.faithful⟩,
    fun h => ⟨h.idle, h.orderly, EditionCache.faithful_iff.mpr h.cache⟩⟩

namespace Sound

theorem empty (edition : String → Fetched) (lifetime : Duration) (capacity : Nat) :
  (empty lifetime capacity).Sound edition
  := sound_iff.mpr (Vouched.empty _ lifetime capacity)

theorem wait (h : s.Sound edition) (now : Instant) :
  (s.wait now).Sound edition
  := sound_iff.mpr ((sound_iff.mp h).wait now)

end Sound

theorem eq_map_of_isOf {outcomes : List Fetched} (h : List.Forall₂ (IsOf edition) slugs outcomes) :
  outcomes = slugs.map edition
  := by
  induction h with
  | nil => rfl
  | cons houtcome _ ih => rw [List.map_cons, houtcome, ih]

/-- Every edition is loaded as the source has it. -/
theorem loadAll_fst (h : s.Sound source.edition) (slugs : List String) :
  (s.loadAll source slugs).1 = slugs.map source.edition
  := by
  have hsource : ∀ slug ∈ slugs, IsOf source.edition slug (source.edition slug) := fun _ _ => rfl
  apply eq_map_of_isOf ((sound_iff.mp h).loadAll_fst hsource)

/-- A sound store is sound after editions have been loaded. -/
theorem Sound.loadAll (h : s.Sound source.edition) (slugs : List String) :
  (s.loadAll source slugs).2.2.Sound source.edition
  := sound_iff.mpr ((sound_iff.mp h).loadAll fun _ _ => rfl)

end EditionStore

end HadithService
