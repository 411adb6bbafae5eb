import HadithService.Limits.Counters

/-!
# Rate limits

A client may make so many calls within a window, which opens with its first call.  Calls that
are denied do not count.  The first call after the end of a window opens the next one.
-/

namespace HadithService

/-- The calls of every client in its present window. -/
structure RateLimiter where
  limit : Nat
  window : Duration
  counters : List Counter
deriving DecidableEq, Repr

namespace RateLimiter

/-- A limiter that has seen no calls. -/
def new (limit : Nat) (window : Duration) : RateLimiter :=
  ⟨limit, window, []⟩

/-- Whether a client may make a call, which then counts. -/
def check (r : RateLimiter) (key : String) (now : Instant) : Bool × RateLimiter :=
  let c := Counter.current r.counters r.window key now
  if r.limit ≤ c.count then (false, { r with counters := Counter.put r.counters c })
  else (true, { r with counters := Counter.put r.counters { c with count := c.count + 1 } })

/-- Drops the windows that have ended, and tells how many there were. -/
def prune (r : RateLimiter) (now : Instant) : Nat × RateLimiter :=
  let alive := Counter.alive r.counters r.window now
  (r.counters.length - alive.length, { r with counters := alive })

/-- How many clients have a window. -/
def tracked (r : RateLimiter) : Nat :=
  r.counters.length

/-- A call or a sweep, with its instant. -/
inductive Event where
  | check (key : String) (now : Instant)
  | prune (now : Instant)
deriving DecidableEq, Repr

/-- When an event takes place. -/
def Event.instant : Event → Instant
  | .check _ now => now
  | .prune now => now

/-- The limiter after an event. -/
def after (r : RateLimiter) : Event → RateLimiter
  | .check key now => (r.check key now).2
  | .prune now => (r.prune now).2

/-- The limiter after a run of events. -/
def run (r : RateLimiter) (events : List Event) : RateLimiter :=
  events.foldl after r

/-- Whether a client was allowed to make a call, and when. -/
structure Answer where
  key : String
  now : Instant
  isAllowed : Bool
deriving DecidableEq, Repr

/-- What the calls of a run are answered. -/
def answers (r : RateLimiter) : List Event → List Answer
  | [] => []
  | .check key now :: rest => ⟨key, now, (r.check key now).1⟩ :: (r.check key now).2.answers rest
  | .prune now :: rest => (r.prune now).2.answers rest

/-- The instants at which a client calls in a run. -/
def callsOf (key : String) (events : List Event) : List Instant :=
  events.filterMap fun
    | .check other now => if other = key then some now else none
    | .prune _ => none

end RateLimiter

end HadithService
