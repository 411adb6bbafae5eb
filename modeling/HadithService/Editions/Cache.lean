import HadithService.Clock
import HadithService.Hadith

/-!
# The cache of editions

Editions that were fetched are kept for a lifetime, at most so many of them.  An edition that is
put into a full cache first drives out all that have outlived their lifetime and then, if there
is still no room, the one that was fetched first.  An edition that is already there only takes
the place of its older self.
-/

namespace HadithService

/-- An edition in the cache. -/
structure CachedEdition where
  slug : String
  hadiths : List Hadith
  fetchedAt : Instant
deriving DecidableEq, Repr

/-- What is told about a cache: how many editions it holds, and how often one was found and not
found. -/
structure CacheStats where
  editions : Nat
  hits : Nat
  misses : Nat
deriving DecidableEq, Repr

/-- Editions by their identifiers, each valid for a lifetime.  How often one was found and not found
is counted in words of 64 bits. -/
structure EditionCache where
  lifetime : Duration
  capacity : Nat
  editions : List CachedEdition
  hits : UInt64
  misses : UInt64
deriving DecidableEq, Repr

namespace EditionCache

/-- A cache with nothing in it. -/
def empty (lifetime : Duration) (capacity : Nat) : EditionCache :=
  ⟨lifetime, capacity, [], 0, 0⟩

/-- Whether an edition is still valid. -/
def isFresh (c : EditionCache) (now : Instant) (e : CachedEdition) : Bool :=
  !hasExpired c.lifetime e.fetchedAt now

/-- What is kept of an edition. -/
def find? (c : EditionCache) (slug : String) : Option CachedEdition :=
  c.editions.find? fun e => e.slug == slug

/-- The hadiths of an edition, if it is there and valid. -/
def peek (c : EditionCache) (slug : String) (now : Instant) : Option (List Hadith) :=
  ((c.find? slug).filter (c.isFresh now)).map CachedEdition.hadiths

/-- Looks an edition up, and counts whether it was found. -/
def get (c : EditionCache) (slug : String) (now : Instant) :
    Option (List Hadith) × EditionCache :=
  match c.peek slug now with
  | some hadiths => (some hadiths, { c with hits := c.hits + 1 })
  | none => (none, { c with misses := c.misses + 1 })

/-- Drops the editions that are no longer valid. -/
def prune (c : EditionCache) (now : Instant) : EditionCache :=
  { c with editions := c.editions.filter (c.isFresh now) }

/-- The edition that was fetched first. -/
def oldest? : List CachedEdition → Option CachedEdition
  | [] => none
  | e :: rest =>
    match oldest? rest with
    | none => some e
    | some f => if e.fetchedAt ≤ f.fetchedAt then some e else some f

/-- Drops an edition. -/
def remove (c : EditionCache) (slug : String) : EditionCache :=
  { c with editions := c.editions.filter fun e => e.slug != slug }

/-- Makes room for another edition. -/
def makeRoom (c : EditionCache) (now : Instant) : EditionCache :=
  let pruned := c.prune now
  if pruned.editions.length < c.capacity then pruned
  else
    match oldest? pruned.editions with
    | none => pruned
    | some e => pruned.remove e.slug

/-- Puts an edition into the cache. -/
def insert (c : EditionCache) (slug : String) (hadiths : List Hadith) (now : Instant) :
    EditionCache :=
  let room :=
    if c.capacity ≤ c.editions.length && (c.find? slug).isNone then c.makeRoom now else c
  { room with editions := (room.remove slug).editions ++ [⟨slug, hadiths, now⟩] }

/-- What is told about the cache. -/
def stats (c : EditionCache) : CacheStats :=
  ⟨c.editions.length, c.hits.toNat, c.misses.toNat⟩

/-- What is done with a cache, with its instant. -/
inductive Event where
  | insert (slug : String) (hadiths : List Hadith) (now : Instant)
  | get (slug : String) (now : Instant)
  | prune (now : Instant)
deriving DecidableEq, Repr

/-- The cache after an event. -/
def after (c : EditionCache) : Event → EditionCache
  | .insert slug hadiths now => c.insert slug hadiths now
  | .get slug now => (c.get slug now).2
  | .prune now => c.prune now

/-- The cache after a run of events. -/
def run (c : EditionCache) (events : List Event) : EditionCache :=
  events.foldl after c

end EditionCache

end HadithService
