import HadithService.Editions.Cache
import HadithService.Editions.Source

/-!
# Loading editions

Several loads can be under way at the same time.  A load looks into the cache; when the edition
is not there it takes the lock of the edition from a table, or puts a new lock there, and queues
up for it.  The load at the head of the queue looks into the cache once more, since a load before
it may have filled it; if that fails too it calls the source, puts an edition that came into the
cache, takes the lock off the table and leaves the queue.

`Loading` is the state that all loads share together with how far each of them has come, and
`Loading.move` is one step of one of them.  The steps of different loads may come in any order,
so a run is a list of moves, each with its instant.
-/

namespace HadithService

/-- How far a load has come. -/
inductive Phase where
  /-- It is about to look into the cache. -/
  | begun
  /-- The edition was not in the cache. -/
  | missed
  /-- It has got a lock but does not stand in its queue yet. -/
  | found (lock : Nat)
  /-- It stands in the queue of the lock. -/
  | waiting (lock : Nat)
  /-- It holds the lock, and the edition was still not in the cache. -/
  | missedAgain (lock : Nat)
  /-- The source has been called. -/
  | fetching (lock : Nat)
  /-- The source has answered. -/
  | fetched (lock : Nat) (outcome : Fetched)
  /-- An edition that came is in the cache. -/
  | stored (lock : Nat) (outcome : Fetched)
  /-- It is about to leave the queue. -/
  | leaving (lock : Nat) (outcome : Fetched)
  | done (outcome : Fetched)

/-- A load of an edition. -/
structure Load where
  slug : String
  phase : Phase

/-- The cache, the table of locks, the queue of every lock that was ever made, and the loads.
The head of a queue holds the lock.  `calls` are the calls of the source, in their order. -/
structure Loading where
  cache : EditionCache
  table : List (String × Nat)
  queues : List (List Nat)
  loads : List Load
  calls : List String

/-- A step: a new load begins, a load goes on by itself, or the source answers one. -/
inductive Move where
  | begin (slug : String)
  | advance (load : Nat)
  | answer (load : Nat) (outcome : Fetched)

/-- The load that a move is a step of. -/
def Move.load? : Move → Option Nat
  | .begin _ => none
  | .advance i => some i
  | .answer i _ => some i

/-- What the source answers in a move. -/
def Move.answer? : Move → Option Fetched
  | .begin _ => none
  | .advance _ => none
  | .answer _ outcome => some outcome

namespace Loading

/-- A state with nothing under way. -/
def idle (cache : EditionCache) : Loading :=
  ⟨cache, [], [], [], []⟩

/-- Puts a load into a phase. -/
def setPhase (s : Loading) (i : Nat) (p : Phase) : Loading :=
  { s with loads := s.loads.modify i fun l => { l with phase := p } }

/-- Looks into the cache, and goes on according to what is found. -/
def look (s : Loading) (i : Nat) (slug : String) (now : Instant) (hit : List Hadith → Phase)
    (miss : Phase) : Loading :=
  match s.cache.get slug now with
  | (some hadiths, cache) => { s with cache := cache }.setPhase i (hit hadiths)
  | (none, cache) => { s with cache := cache }.setPhase i miss

/-- The lock of an edition, if there is one on the table. -/
def lock? (s : Loading) (slug : String) : Option Nat :=
  (s.table.find? fun t => t.1 == slug).map Prod.snd

/-- Whether a load stands at the head of a queue. -/
def holds (s : Loading) (i lock : Nat) : Bool :=
  s.queues[lock]?.bind List.head? == some i

/-- Takes the lock of an edition from the table, or puts a new one there. -/
def takeLock (s : Loading) (i : Nat) (slug : String) : Loading :=
  match s.lock? slug with
  | some lock => s.setPhase i (.found lock)
  | none =>
    let lock := s.queues.length
    { s with table := (slug, lock) :: s.table, queues := s.queues ++ [[]] }.setPhase i (.found lock)

/-- Puts an edition that came into the cache. -/
def store (s : Loading) (slug : String) (now : Instant) : Fetched → Loading
  | .ok hadiths => { s with cache := s.cache.insert slug hadiths now }
  | .error _ => s

/-- A step that a load takes by itself, if it is not waiting for something. -/
def advance (s : Loading) (now : Instant) (i : Nat) : Option Loading :=
  match s.loads[i]? with
  | none => none
  | some l =>
    match l.phase with
    | .begun => some (s.look i l.slug now (fun hadiths => .done (.ok hadiths)) .missed)
    | .missed => some (s.takeLock i l.slug)
    | .found lock =>
      some ({ s with queues := s.queues.modify lock (· ++ [i]) }.setPhase i (.waiting lock))
    | .waiting lock =>
      if s.holds i lock then
        some (s.look i l.slug now (fun hadiths => .leaving lock (.ok hadiths)) (.missedAgain lock))
      else none
    | .missedAgain lock =>
      some ({ s with calls := s.calls ++ [l.slug] }.setPhase i (.fetching lock))
    | .fetching _ => none
    | .fetched lock outcome => some ((s.store l.slug now outcome).setPhase i (.stored lock outcome))
    | .stored lock outcome =>
      some ({ s with table := s.table.filter fun t => t.1 != l.slug }.setPhase i
        (.leaving lock outcome))
    | .leaving lock outcome =>
      some ({ s with queues := s.queues.modify lock List.tail }.setPhase i (.done outcome))
    | .done _ => none

/-- The answer of the source to a load that has called it. -/
def answer (s : Loading) (i : Nat) (outcome : Fetched) : Option Loading :=
  match s.loads[i]? with
  | none => none
  | some l =>
    match l.phase with
    | .fetching lock => some (s.setPhase i (.fetched lock outcome))
    | _ => none

/-- A step at an instant, if it can be taken. -/
def move (s : Loading) (now : Instant) : Move → Option Loading
  | .begin slug => some { s with loads := s.loads ++ [⟨slug, .begun⟩] }
  | .advance i => s.advance now i
  | .answer i outcome => s.answer i outcome

/-- A run: steps one after the other, each at its instant. -/
def run (s : Loading) : List (Instant × Move) → Option Loading
  | [] => some s
  | (now, m) :: rest => (s.move now m).bind fun s => s.run rest

/-- The outcome of a load that is done. -/
def outcome? (l : Load) : Option Fetched :=
  match l.phase with
  | .done outcome => some outcome
  | _ => none

/-- Whether every load is done. -/
def isSettled (s : Loading) : Bool :=
  s.loads.all fun l => (outcome? l).isSome

/-- What stays when every load is done: the cache and the table, and the queues as long as the
table names a lock. -/
def settled (s : Loading) : Loading :=
  { s with
    queues := if s.table.isEmpty then [] else s.queues
    loads := []
    calls := [] }

end Loading

end HadithService
