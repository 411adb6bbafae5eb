import HadithService.Editions.Rounds
import HadithService.Search.Query

/-!
# Searching

A search loads the editions that its query asks for, out of the cache as far as they are there,
and answers the query from them.  A service may be asked one thing after another or many things at
the same time.  `answers` makes searches one after the other.  In `Inquiries` each search begins the
loads of its editions, these take their steps in any order among those of other searches, and the
answer of a search is there when its own loads are done.  A search that has got its answer may be
forgotten.
-/

namespace HadithService.Search

/-- Answers a query.  Gives the answer and the calls of the source in the order they were made. -/
def search (source : EditionSource) (q : Query) (store : EditionStore) :
    Except Unavailable (Option Results) × List String × EditionStore :=
  let (editions, calls, store) := store.loadAll source q.plan.slugs
  (q.answer editions, calls, store)

/-- The answer to a query on an empty store of its own. -/
def fresh (source : EditionSource) (lifetime : Duration) (capacity : Nat) (q : Query) :
    Except Unavailable (Option Results) :=
  (search source q (.empty lifetime capacity)).1

/-- The answers to queries that are made one after the other, each not before its instant. -/
def answers (source : EditionSource) (store : EditionStore) :
    List (Instant × Query) → List (Except Unavailable (Option Results))
  | [] => []
  | (now, q) :: rest =>
    let (answer, _, store) := search source q (store.wait now)
    answer :: answers source store rest

/-- A search under way: its query, and how many loads had been begun before its own. -/
structure Inquiry where
  query : Query
  start : Nat
deriving DecidableEq, Repr

/-- The numbers of the loads of a search. -/
def Inquiry.loads (inquiry : Inquiry) : List Nat :=
  List.range' inquiry.start inquiry.query.plan.slugs.length

/-- Searches under way, with the loads of all of them. -/
structure Inquiries where
  loading : Loading
  asked : List Inquiry

/-- What can happen: a search is begun, a load goes on by itself, the source answers a load, or
what has expired is dropped from the cache. -/
inductive InquiryMove where
  | ask (q : Query)
  | advance (load : Nat)
  | reply (load : Nat)
  | sweep
deriving DecidableEq, Repr

namespace InquiryMove

/-- Whether a move is a step of a load. -/
def isStep : InquiryMove → Bool
  | .advance _ => true
  | .reply _ => true
  | _ => false

/-- The query of a search that is begun. -/
def query? : InquiryMove → Option Query
  | .ask q => some q
  | _ => none

end InquiryMove

namespace Inquiries

/-- A state with nothing asked. -/
def idle (cache : EditionCache) : Inquiries :=
  ⟨Loading.idle cache, []⟩

/-- The loads of a search. -/
def loadsOf (s : Inquiries) (inquiry : Inquiry) : List Load :=
  (s.loading.loads.drop inquiry.start).take inquiry.query.plan.slugs.length

/-- The answer of a search, once all its loads are done. -/
def answer? (s : Inquiries) (inquiry : Inquiry) : Option (Except Unavailable (Option Results)) :=
  let loads := s.loadsOf inquiry
  if loads.all fun l => (Loading.outcome? l).isSome then
    some (inquiry.query.answer (loads.filterMap Loading.outcome?))
  else none

/-- The state after a search is begun. -/
def begun (s : Inquiries) (q : Query) : Inquiries where
  loading := { s.loading with
    loads := s.loading.loads ++ q.plan.slugs.map fun slug => ⟨slug, .begun⟩ }
  asked := s.asked ++ [⟨q, s.loading.loads.length⟩]

/-- The state after what has expired is dropped from the cache. -/
def swept (s : Inquiries) (now : Instant) : Inquiries :=
  { s with loading := { s.loading with cache := s.loading.cache.prune now } }

/-- The state without a search that has been answered.  With the last one all loads are
forgotten. -/
def without (s : Inquiries) (inquiry : Inquiry) : Inquiries :=
  let asked := s.asked.erase inquiry
  ⟨if asked.isEmpty then s.loading.settled else s.loading, asked⟩

/-- A move at an instant, if it can be made. -/
def move (source : EditionSource) (s : Inquiries) (now : Instant) :
    InquiryMove → Option Inquiries
  | .ask q => some (s.begun q)
  | .advance i => (s.loading.move now (.advance i)).map fun loading => { s with loading := loading }
  | .reply i => do
    let l ← s.loading.loads[i]?
    let loading ← s.loading.move now (.answer i (source.edition l.slug))
    return { s with loading := loading }
  | .sweep => some (s.swept now)

/-- A run: moves one after the other, each at its instant. -/
def run (source : EditionSource) (s : Inquiries) : List (Instant × InquiryMove) → Option Inquiries
  | [] => some s
  | (now, m) :: rest => (s.move source now m).bind fun s => s.run source rest

end Inquiries

end HadithService.Search
