import HadithService.Proofs.Editions.Vouched

/-!
# Loads of a source that always answers the same

When the source has one outcome for every edition, whatever is in the cache is that outcome, and
so is whatever a load has got, from the cache or from the source (`Loading.Faithful`).  No step
can change this: an edition that is driven out or has expired only has to be fetched again.
-/

namespace HadithService

variable {edition : String → Fetched}

/-- What the source has under an identifier. -/
def IsOf (edition : String → Fetched) (slug : String) (outcome : Fetched) : Prop :=
  outcome = edition slug

/-! ### The cache -/

namespace EditionCache

variable {c : EditionCache}

/-- The cache holds what the source has. -/
def Faithful (edition : String → Fetched) (c : EditionCache) : Prop :=
  ∀ e ∈ c.editions, edition e.slug = .ok e.hadiths

theorem faithful_iff :
  c.Faithful edition ↔ c.Vouched (IsOf edition)
  := by
  simp only [Faithful, Vouched, IsOf, eq_comm]

namespace Faithful

theorem empty (lifetime : Duration) (capacity : Nat) :
  (empty lifetime capacity).Faithful edition
  := faithful_iff.mpr (Vouched.empty lifetime capacity)

theorem prune (h : c.Faithful edition) (now : Instant) :
  (c.prune now).Faithful edition
  := faithful_iff.mpr ((faithful_iff.mp h).prune now)

end Faithful

end EditionCache

/-! ### The loads -/

namespace Loading

variable {s t : Loading} {now : Instant} {m : Move}

/-- What is in the cache and what loads have got is what the source has. -/
structure Faithful (edition : String → Fetched) (s : Loading) : Prop where
  cache : s.cache.Faithful edition
  loads : ∀ (i : Nat) (l : Load) (outcome : Fetched), s.loads[i]? = some l →
    l.phase.got? = some outcome → outcome = edition l.slug

theorem faithful_iff :
  Faithful edition s ↔ Vouched (IsOf edition) s
  := ⟨fun h => ⟨EditionCache.faithful_iff.mp h.cache, h.loads⟩,
    fun h => ⟨EditionCache.faithful_iff.mpr h.cache, h.loads⟩⟩

/-- The source answers with what it has. -/
def IsTrue (edition : String → Fetched) (s : Loading) (m : Move) : Prop :=
  ∀ i outcome, m = .answer i outcome → ∀ l, s.loads[i]? = some l → outcome = edition l.slug

namespace Faithful

theorem idle {cache : EditionCache} (h : cache.Faithful edition) :
  Faithful edition (idle cache)
  := faithful_iff.mpr (Vouched.idle (EditionCache.faithful_iff.mp h))

theorem begin (h : Faithful edition s) (slugs : List String) :
  Faithful edition { s with loads := s.loads ++ slugs.map fun slug => ⟨slug, .begun⟩ }
  := faithful_iff.mpr ((faithful_iff.mp h).begin slugs)

/-- Every step keeps it that there is nothing but what the source has. -/
theorem step (h : Faithful edition s) (hstep : Step s now m t) (hanswer : IsTrue edition s m) :
  Faithful edition t
  := faithful_iff.mpr ((faithful_iff.mp h).step hstep hanswer)

end Faithful

end Loading

end HadithService
