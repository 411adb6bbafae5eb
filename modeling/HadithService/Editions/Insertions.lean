import HadithService.Editions.Cache
import Mathlib.Data.Finset.Card

/-!
# Insertions into the cache

What a run of events puts into the cache, from the last edition to the first.  Under one identifier
there may have been several insertions, of which only the last one matters; how recent it is can be
told by the other identifiers under which there were insertions since.
-/

namespace HadithService.EditionCache

/-- When an event takes place. -/
def Event.instant : Event → Instant
  | .insert _ _ now => now
  | .get _ now => now
  | .prune now => now

/-- The edition that an event puts into the cache. -/
def Event.inserted? : Event → Option CachedEdition
  | .insert slug hadiths now => some ⟨slug, hadiths, now⟩
  | .get _ _ => none
  | .prune _ => none

/-- The editions that a run of events puts into the cache, from the last to the first. -/
def insertions (events : List Event) : List CachedEdition :=
  (events.filterMap Event.inserted?).reverse

/-- The last insertion under an identifier. -/
def latest? (history : List CachedEdition) (slug : String) : Option CachedEdition :=
  history.find? fun e => e.slug == slug

/-- The other identifiers under which there were insertions after an instant. -/
def newer (history : List CachedEdition) (slug : String) (since : Instant) : Finset String :=
  ((history.filter fun e => since < e.fetchedAt && e.slug != slug).map CachedEdition.slug).toFinset

end HadithService.EditionCache
