import HadithService.Service.Basic

/-!
# The stores of the service

What the service asks of the stores that its requests share: whether a client may call once more,
whether a conversation is closed, what is in the cache.  Every call of a store has an answer; a
sweep drops what has expired from all of them and has none.
-/

namespace HadithService

/-- A call of one of the stores, or a sweep. -/
inductive StoreCall where
  | checkExplain (client : String)
  | checkChat (client : String)
  | strike (session : String)
  | isClosed (session : String)
  | insert (slug : String) (hadiths : List Hadith)
  | get (slug : String)
  | sweep
deriving DecidableEq, Repr

/-- What a call is answered. -/
inductive StoreAnswer where
  | allowed (isAllowed : Bool)
  | counted (strike : Strike)
  | closed (isClosed : Bool)
  | stored
  | found (hadiths : Option (List Hadith))
deriving DecidableEq, Repr

/-- The edition that a call at an instant puts into the cache. -/
def StoreCall.inserted? (now : Instant) : StoreCall → Option CachedEdition
  | .insert slug hadiths => some ⟨slug, hadiths, now⟩
  | _ => none

namespace Service

/-- Serves a call of a store at an instant. -/
def serve (s : Service) (now : Instant) : StoreCall → Option StoreAnswer × Service
  | .checkExplain client =>
    let (isAllowed, limiter) := s.explainLimiter.check client now
    (some (.allowed isAllowed), { s with explainLimiter := limiter })
  | .checkChat client =>
    let (isAllowed, limiter) := s.chatLimiter.check client now
    (some (.allowed isAllowed), { s with chatLimiter := limiter })
  | .strike session =>
    let (strike, tracker) := s.offTopic.record session now
    (some (.counted strike), { s with offTopic := tracker })
  | .isClosed session => (some (.closed (s.offTopic.isClosed session now)), s)
  | .insert slug hadiths =>
    (some .stored, { s with store := s.store.setCache (s.store.cache.insert slug hadiths now) })
  | .get slug =>
    let (hadiths, cache) := s.store.cache.get slug now
    (some (.found hadiths), { s with store := s.store.setCache cache })
  | .sweep => (none, (s.prune now).2)

/-- The service after some calls, each with its instant. -/
def served (s : Service) (calls : List (Instant × StoreCall)) : Service :=
  calls.foldl (fun s c => (s.serve c.1 c.2).2) s

/-- What some calls are answered. -/
def storeAnswers (s : Service) : List (Instant × StoreCall) → List StoreAnswer
  | [] => []
  | (now, c) :: rest => (s.serve now c).1.toList ++ (s.serve now c).2.storeAnswers rest

/-- The editions that some calls put into the cache. -/
def insertions (calls : List (Instant × StoreCall)) : List CachedEdition :=
  calls.filterMap fun c => c.2.inserted? c.1

/-- The calls without the sweeps among them. -/
def withoutSweeps (calls : List (Instant × StoreCall)) : List (Instant × StoreCall) :=
  calls.filter fun c => c.2 ≠ .sweep

/-- Nobody has called yet. -/
structure IsUnused (s : Service) : Prop where
  explainLimiter : s.explainLimiter.counters = []
  chatLimiter : s.chatLimiter.counters = []
  offTopic : s.offTopic.counters = []
  cache : s.store.cache.editions = []

end Service

end HadithService
