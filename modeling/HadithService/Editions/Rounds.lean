import HadithService.Editions.Loading

/-!
# Loads in rounds

One way to carry out loads that were begun together: in rounds, in each of which every load goes
on, in the order of the loads, until it has to wait.  A source may let a load wait for some
rounds before it answers.  Every step takes place one nanosecond after the step before it.
-/

namespace HadithService

/-- Loads on their way: their state, the clock, and for how many more rounds each load that has
called the source has to wait. -/
structure Rounds where
  loading : Loading
  clock : Instant
  awaited : List (Nat × Nat)

namespace Rounds

variable (source : EditionSource)

/-- Takes a step, if it can be taken. -/
def move (r : Rounds) (m : Move) : Option Rounds :=
  (r.loading.move r.clock m).map fun s => { r with loading := s, clock := r.clock + 1 }

/-- How many more rounds a load has to wait for the answer to its call. -/
def waitOf (r : Rounds) (i : Nat) (reply : SourceReply) : Nat :=
  ((r.awaited.find? fun w => w.1 == i).map Prod.snd).getD reply.rounds

/-- Whether a load has called the source, and for which edition. -/
def callOf (r : Rounds) (i : Nat) : Option String :=
  match r.loading.loads[i]? with
  | some ⟨slug, .fetching _⟩ => some slug
  | _ => none

/-- Lets a load go on until it has to wait.  It never takes more than nine steps. -/
def turn (i : Nat) : Nat → Rounds → Rounds
  | 0, r => r
  | fuel + 1, r =>
    match r.callOf i with
    | some slug =>
      let reply := source slug
      match r.waitOf i reply with
      | 0 =>
        match r.move (.answer i reply.outcome) with
        | some r => turn i fuel r
        | none => r
      | n + 1 => { r with awaited := (i, n) :: r.awaited.filter fun w => w.1 != i }
    | none =>
      match r.move (.advance i) with
      | some r => turn i fuel r
      | none => r

/-- Lets every load go on once. -/
def round (r : Rounds) : Rounds :=
  (List.range r.loading.loads.length).foldl (fun r i => turn source i 10 r) r

/-- Goes on round after round until all loads are done. -/
def settle : Nat → Rounds → Rounds
  | 0, r => r
  | fuel + 1, r => if r.loading.isSettled then r else settle fuel (r.round source)

/-- As many rounds as the loads can take: in every round a load that holds a lock waits one round
less for its answer, or is done. -/
def enough (loads : List Load) : Nat :=
  loads.foldl (fun n l => n + (source l.slug).rounds + 1) 1

end Rounds

/-- What stays between one set of loads and the next: the cache, the locks and the clock. -/
structure EditionStore where
  loading : Loading
  clock : Instant

namespace EditionStore

/-- A store with an empty cache. -/
def empty (lifetime : Duration) (capacity : Nat) : EditionStore :=
  ⟨Loading.idle (.empty lifetime capacity), 0⟩

/-- The cache. -/
def cache (s : EditionStore) : EditionCache :=
  s.loading.cache

/-- The same store with another cache. -/
def setCache (s : EditionStore) (cache : EditionCache) : EditionStore :=
  { s with loading := { s.loading with cache := cache } }

/-- The same store at an instant, unless it has already come. -/
def wait (now : Instant) (s : EditionStore) : EditionStore :=
  { s with clock := max s.clock now }

/-- Loads editions together.  Gives the outcomes in the order of the loads, and the calls of the
source in the order they were made. -/
def loadAll (source : EditionSource) (slugs : List String) (s : EditionStore) :
    List Fetched × List String × EditionStore :=
  let loads := slugs.map fun slug => ⟨slug, .begun⟩
  let r := Rounds.settle source (Rounds.enough source loads)
    ⟨{ s.loading with loads := loads, calls := [] }, s.clock, []⟩
  let outcomes := r.loading.loads.map fun l => (Loading.outcome? l).getD (.error .request)
  (outcomes, r.loading.calls, ⟨r.loading.settled, r.clock⟩)

end EditionStore

end HadithService
