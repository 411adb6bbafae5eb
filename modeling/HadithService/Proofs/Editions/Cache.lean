import HadithService.Editions.Cache
import Mathlib.Data.List.Nodup

/-!
# What the operations of the cache keep

Looking an edition up changes the counts only.  An insertion keeps some of the editions with other
identifiers, all of them when there is room, and adds the new one; a sweep keeps some of what was
there.  So every edition in a cache was once put there, and no identifier occurs twice.
-/

namespace HadithService.EditionCache

variable (c : EditionCache) (slug : String) (hadiths : List Hadith) (now : Instant)

/-! ### Looking up -/

@[simp]
theorem get_fst :
  (c.get slug now).1 = c.peek slug now
  := by
  rw [get]
  cases c.peek slug now
  · rfl
  · rfl

@[simp]
theorem get_editions :
  (c.get slug now).2.editions = c.editions
  := by
  rw [get]
  cases c.peek slug now
  · rfl
  · rfl

variable {c slug hadiths now}

/-- What is found under an identifier is in the cache. -/
theorem mem_of_find? {e : CachedEdition} (h : c.find? slug = some e) :
  e ∈ c.editions ∧ e.slug = slug
  := by
  constructor
  · apply List.mem_of_find?_eq_some h
  · simpa using List.find?_some h

/-- The hadiths that a lookup gives are those of an edition in the cache. -/
theorem mem_of_peek (h : c.peek slug now = some hadiths) :
  ∃ e ∈ c.editions, e.slug = slug ∧ e.hadiths = hadiths
  := by
  obtain ⟨e, he, rfl⟩ := Option.map_eq_some_iff.mp h
  obtain ⟨hfind, -⟩ := Option.filter_eq_some_iff.mp he
  obtain ⟨hmem, hslug⟩ := mem_of_find? hfind
  use e

/-- A lookup under an identifier that is in the cache finds an edition. -/
theorem find?_isSome {e : CachedEdition} (he : e ∈ c.editions) :
  (c.find? e.slug).isSome
  := by
  apply List.find?_isSome.mpr
  use e, he
  simp

theorem find?_eq_none_of_sublist {d : EditionCache} (h : List.Sublist d.editions c.editions)
    (hnone : c.find? slug = none) :
  d.find? slug = none
  := by
  rw [find?, List.find?_eq_none] at hnone ⊢
  intro e he
  apply hnone e (h.subset he)

/-- A lookup finds nothing once the lifetime of the edition has passed. -/
theorem peek_eq_none
    (h : ∀ e ∈ c.editions, e.slug = slug → hasExpired c.lifetime e.fetchedAt now = true) :
  c.peek slug now = none
  := by
  rw [peek, Option.map_eq_none_iff, Option.filter_eq_none_iff]
  intro e he
  obtain ⟨hmem, hslug⟩ := mem_of_find? he
  simp [isFresh, h e hmem hslug]

/-- No edition was fetched after a certain instant. -/
theorem exists_last (editions : List CachedEdition) :
  ∃ last, ∀ e ∈ editions, e.fetchedAt ≤ last
  := by
  induction editions with
  | nil =>
    use 0
    simp
  | cons e rest ih =>
    obtain ⟨last, hlast⟩ := ih
    use max e.fetchedAt last
    intro f hf
    rcases List.mem_cons.mp hf with rfl | hf
    · apply Nat.le_max_left
    · apply Nat.le_trans (hlast f hf) (Nat.le_max_right _ _)

/-- However late it is, there will be an instant at which a lookup finds nothing. -/
theorem exists_peek_eq_none (c : EditionCache) (slug : String) (since : Instant) :
  ∃ now, since ≤ now ∧ c.peek slug now = none
  := by
  obtain ⟨last, hlast⟩ := exists_last c.editions
  use max since (last + c.lifetime + 1), Nat.le_max_left _ _
  apply peek_eq_none
  intro e he _
  rw [hasExpired, decide_eq_true_eq]
  apply Nat.lt_sub_of_add_lt
  apply Nat.lt_of_lt_of_le _ (Nat.le_max_right _ _)
  rw [Nat.add_comm]
  apply Nat.lt_succ_of_le
  apply Nat.add_le_add_right (hlast e he)

/-- No identifier occurs twice. -/
def Distinct (c : EditionCache) : Prop :=
  (c.editions.map CachedEdition.slug).Nodup

theorem distinct_empty (lifetime : Duration) (capacity : Nat) :
  (empty lifetime capacity).Distinct
  := List.nodup_nil

theorem Distinct.get (h : c.Distinct) :
  (c.get slug now).2.Distinct
  := by
  rw [Distinct, get_editions]
  apply h

/-- Under an identifier that occurs once the edition with this identifier is found. -/
theorem Distinct.find? (h : c.Distinct) {e : CachedEdition} (he : e ∈ c.editions) :
  c.find? e.slug = some e
  := by
  obtain ⟨f, hf⟩ := Option.isSome_iff_exists.mp (find?_isSome he)
  obtain ⟨hmem, hslug⟩ := mem_of_find? hf
  rw [hf, List.inj_on_of_nodup_map h hmem he hslug]

/-- A lookup gives the hadiths of an edition that is in the cache and valid. -/
theorem Distinct.peek (h : c.Distinct) {e : CachedEdition} (he : e ∈ c.editions)
    (hnow : now - e.fetchedAt ≤ c.lifetime) :
  c.peek e.slug now = some e.hadiths
  := by
  have hfresh : c.isFresh now e = true := by simp [isFresh, hasExpired, hnow]
  rw [EditionCache.peek, h.find? he, Option.filter_some, if_pos hfresh]
  rfl

/-! ### Dropping editions -/

theorem prune_sublist (c : EditionCache) (now : Instant) :
  List.Sublist (c.prune now).editions c.editions
  := List.filter_sublist

theorem remove_sublist (c : EditionCache) (slug : String) :
  List.Sublist (c.remove slug).editions c.editions
  := List.filter_sublist

theorem makeRoom_sublist (c : EditionCache) (now : Instant) :
  List.Sublist (c.makeRoom now).editions c.editions
  := by
  rw [makeRoom]
  split
  · apply prune_sublist
  · cases oldest? (c.prune now).editions with
    | none => apply prune_sublist
    | some e => apply (remove_sublist _ _).trans (prune_sublist _ _)

theorem slug_ne_of_mem_remove {e : CachedEdition} (h : e ∈ (c.remove slug).editions) :
  e.slug ≠ slug
  := by
  simpa using (List.mem_filter.mp h).2

theorem mem_remove {e : CachedEdition} (he : e ∈ c.editions) (h : e.slug ≠ slug) :
  e ∈ (c.remove slug).editions
  := by
  apply List.mem_filter.mpr
  simp [he, h]

/-- Nothing is dropped under an identifier that is not there. -/
theorem remove_of_absent (h : c.find? slug = none) :
  (c.remove slug).editions = c.editions
  := by
  apply List.filter_eq_self.mpr
  intro e he
  simpa using List.find?_eq_none.mp h e he

/-- Under an identifier that is there something is dropped. -/
theorem length_remove_lt (h : (c.find? slug).isSome) :
  (c.remove slug).editions.length < c.editions.length
  := by
  obtain ⟨e, he⟩ := Option.isSome_iff_exists.mp h
  obtain ⟨hmem, rfl⟩ := mem_of_find? he
  apply List.length_filter_lt_length_iff_exists.mpr
  use e, hmem
  simp

/-- Under an identifier that occurs once one edition is dropped. -/
theorem Distinct.length_remove (h : c.Distinct) (hslug : (c.find? slug).isSome) :
  (c.remove slug).editions.length + 1 = c.editions.length
  := by
  have hcount : c.editions.countP (fun e => e.slug == slug) = 1 := by
    apply Nat.le_antisymm
    · have hle := List.nodup_iff_count_le_one.mp h slug
      rwa [List.count, List.countP_map] at hle
    · apply List.countP_pos_iff.mpr (List.find?_isSome.mp hslug)
  have hsplit := List.length_eq_countP_add_countP (l := c.editions)
    fun e : CachedEdition => e.slug == slug
  rw [hcount, Nat.add_comm] at hsplit
  rw [hsplit, remove, ← List.countP_eq_length_filter]
  simp only [bne, decide_not, Bool.decide_eq_true]

/-! ### Inserting -/

/-- Making room changes the editions only. -/
theorem makeRoom_eq (c : EditionCache) (now : Instant) :
  c.makeRoom now = { c with editions := (c.makeRoom now).editions }
  := by
  rw [makeRoom]
  split
  · rfl
  · cases oldest? (c.prune now).editions with
    | none => rfl
    | some e => rfl

/-- An insertion changes the editions only. -/
theorem insert_eq (c : EditionCache) (slug : String) (hadiths : List Hadith) (now : Instant) :
  c.insert slug hadiths now = { c with editions := (c.insert slug hadiths now).editions }
  := by
  rw [insert]
  split
  · rw [makeRoom_eq]
  · rfl

/-- After an insertion the cache holds some of the editions with other identifiers, in their
order, and then the new one. -/
theorem exists_insert_editions (c : EditionCache) (slug : String) (hadiths : List Hadith)
    (now : Instant) :
  ∃ kept, List.Sublist kept c.editions ∧ (∀ e ∈ kept, e.slug ≠ slug) ∧
    (c.insert slug hadiths now).editions = kept ++ [⟨slug, hadiths, now⟩]
  := by
  rw [insert]
  split
  · use ((c.makeRoom now).remove slug).editions
    use (remove_sublist _ _).trans (makeRoom_sublist c now)
    use fun e => slug_ne_of_mem_remove
  · use (c.remove slug).editions
    use remove_sublist c slug
    use fun e => slug_ne_of_mem_remove

/-- An insertion keeps all editions with other identifiers when there is room for one more, or
when the identifier is already there. -/
theorem insert_editions_of_room
    (h : c.editions.length < c.capacity ∨ (c.find? slug).isSome) :
  (c.insert slug hadiths now).editions = (c.remove slug).editions ++ [⟨slug, hadiths, now⟩]
  := by
  have hroom : ¬ (decide (c.capacity ≤ c.editions.length) && (c.find? slug).isNone) = true := by
    rcases h with h | h
    · simp [Nat.not_le.mpr h]
    · simp [Option.isNone_eq_false_iff.mpr h]
  rw [insert, if_neg hroom]

/-- An edition in the cache after an insertion is the new one or was there before. -/
theorem mem_insert {e : CachedEdition} (h : e ∈ (c.insert slug hadiths now).editions) :
  e = ⟨slug, hadiths, now⟩ ∨ e ∈ c.editions
  := by
  obtain ⟨kept, hkept, -, heq⟩ := exists_insert_editions c slug hadiths now
  rw [heq, List.mem_append, List.mem_singleton] at h
  rcases h with h | h
  · right
    apply hkept.subset h
  · left
    apply h

theorem mem_insert_self (c : EditionCache) (slug : String) (hadiths : List Hadith)
    (now : Instant) :
  ⟨slug, hadiths, now⟩ ∈ (c.insert slug hadiths now).editions
  := by
  obtain ⟨kept, -, -, heq⟩ := exists_insert_editions c slug hadiths now
  rw [heq]
  simp

theorem Distinct.insert (h : c.Distinct) :
  (c.insert slug hadiths now).Distinct
  := by
  obtain ⟨kept, hkept, hne, heq⟩ := exists_insert_editions c slug hadiths now
  rw [Distinct, heq, List.map_append, List.nodup_append]
  constructor
  · apply List.Nodup.sublist (hkept.map _) h
  · simpa using hne

/-! ### Runs -/

/-- Two caches have the same lifetime and the same capacity.  Only what they hold and what they have
counted may differ. -/
structure SameLimits (c d : EditionCache) : Prop where
  lifetime_eq : c.lifetime = d.lifetime
  capacity_eq : c.capacity = d.capacity

namespace SameLimits

theorem refl (c : EditionCache) :
  c.SameLimits c
  := ⟨rfl, rfl⟩

theorem symm {d : EditionCache} (h : c.SameLimits d) :
  d.SameLimits c
  := ⟨h.lifetime_eq.symm, h.capacity_eq.symm⟩

theorem trans {d e : EditionCache} (h : c.SameLimits d) (h' : d.SameLimits e) :
  c.SameLimits e
  := ⟨h.lifetime_eq.trans h'.lifetime_eq, h.capacity_eq.trans h'.capacity_eq⟩

theorem get (c : EditionCache) (slug : String) (now : Instant) :
  (c.get slug now).2.SameLimits c
  := by
  rw [EditionCache.get]
  cases c.peek slug now with
  | none => exact ⟨rfl, rfl⟩
  | some hadiths => exact ⟨rfl, rfl⟩

theorem insert (c : EditionCache) (slug : String) (hadiths : List Hadith) (now : Instant) :
  (c.insert slug hadiths now).SameLimits c
  := by
  rw [insert_eq]
  exact ⟨rfl, rfl⟩

/-- Nothing that is done with a cache changes its limits. -/
theorem after (c : EditionCache) (e : Event) :
  (c.after e).SameLimits c
  := by
  cases e with
  | insert slug hadiths now => apply insert
  | get slug now => apply get
  | prune now => exact ⟨rfl, rfl⟩

theorem run (c : EditionCache) (events : List Event) :
  (c.run events).SameLimits c
  := by
  induction events generalizing c with
  | nil => apply refl
  | cons e events ih => exact (ih (c.after e)).trans (after c e)

end SameLimits

end HadithService.EditionCache
