import HadithService.Limits.Counters

/-!
# Questions off the topic

Every question of a conversation that is off the topic is a strike.  Strikes add up as long as
none comes later than the timeout after the one before; when there are as many as the threshold
the conversation is closed, until the timeout has passed since the last strike.
-/

namespace HadithService

/-- The strikes of every conversation, each counter counting from the last strike. -/
structure OffTopicTracker where
  threshold : Nat
  timeout : Duration
  counters : List Counter
deriving DecidableEq, Repr

/-- A strike: which one it is, how many are left before the conversation is closed, and whether
this one closes it. -/
structure Strike where
  count : Nat
  remaining : Nat
  shouldClose : Bool
deriving DecidableEq, Repr

namespace OffTopicTracker

/-- A tracker that has seen no strikes. -/
def new (threshold : Nat) (timeout : Duration) : OffTopicTracker :=
  ⟨threshold, timeout, []⟩

/-- Whether a conversation is closed. -/
def isClosed (t : OffTopicTracker) (session : String) (now : Instant) : Bool :=
  match Counter.find? t.counters session with
  | none => false
  | some c => !hasExpired t.timeout c.since now && t.threshold ≤ c.count

/-- Counts a strike. -/
def record (t : OffTopicTracker) (session : String) (now : Instant) : Strike × OffTopicTracker :=
  let count := (Counter.current t.counters t.timeout session now).count + 1
  (⟨count, t.threshold - count, t.threshold ≤ count⟩,
    { t with counters := Counter.put t.counters ⟨session, count, now⟩ })

/-- Drops the conversations whose timeout has passed, and tells how many there were. -/
def prune (t : OffTopicTracker) (now : Instant) : Nat × OffTopicTracker :=
  let alive := Counter.alive t.counters t.timeout now
  (t.counters.length - alive.length, { t with counters := alive })

/-- A strike, a look whether a conversation is closed, or a sweep, with its instant. -/
inductive Event where
  | record (session : String) (now : Instant)
  | isClosed (session : String) (now : Instant)
  | prune (now : Instant)
deriving DecidableEq, Repr

namespace Event

/-- When an event takes place. -/
def instant : Event → Instant
  | .record _ now => now
  | .isClosed _ now => now
  | .prune now => now

/-- Whether an event concerns a conversation. -/
def isOf (session : String) : Event → Bool
  | .record other _ => other == session
  | .isClosed other _ => other == session
  | .prune _ => false

/-- Whether an event is a strike. -/
def isStrike : Event → Bool
  | .record _ _ => true
  | _ => false

/-- The instant of an event that is a strike in a conversation. -/
def strike? (session : String) : Event → Option Instant
  | .record other now => if other = session then some now else none
  | _ => none

end Event

/-- The tracker after an event. -/
def after (t : OffTopicTracker) : Event → OffTopicTracker
  | .record session now => (t.record session now).2
  | .isClosed _ _ => t
  | .prune now => (t.prune now).2

/-- The tracker after a run of events. -/
def run (t : OffTopicTracker) (events : List Event) : OffTopicTracker :=
  events.foldl after t

/-- The strikes of a conversation in a run, from the last to the first. -/
def strikesOf (session : String) (events : List Event) : List Instant :=
  (events.filterMap (Event.strike? session)).reverse

end OffTopicTracker

end HadithService
