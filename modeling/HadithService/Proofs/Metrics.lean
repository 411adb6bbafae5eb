import HadithService.Service.Tallies
import Mathlib.Tactic.Use

/-!
# Counts of what was recorded

Every count of the metrics goes up by one with the events that it counts, and by nothing else
(`Metrics.Counter.value_record`).  So it is the number of these events, as long as there are not too
many of them for a word (`Metrics.Counter.toNat_value_recordAll`).
-/

namespace HadithService

namespace MetricsEvent

/-- A request was answered. -/
@[simp]
def isRequest : MetricsEvent → Bool
  | .request _ => true
  | _ => false

/-- A request was answered with success, or without. -/
@[simp]
def isRequestOf (isSuccess : Bool) : MetricsEvent → Bool
  | .request b => b == isSuccess
  | _ => false

/-- A client had called too often. -/
@[simp]
def isRateLimited : MetricsEvent → Bool
  | .rateLimited => true
  | _ => false

/-- A question was off the topic. -/
@[simp]
def isOffTopic : MetricsEvent → Bool
  | .offTopic _ => true
  | _ => false

/-- A conversation was closed. -/
@[simp]
def isClosing : MetricsEvent → Bool
  | .offTopic isClosing => isClosing
  | _ => false

/-- A request for an endpoint was timed. -/
@[simp]
def isTimed (endpoint : Endpoint) : MetricsEvent → Bool
  | .timed e _ => e == endpoint
  | _ => false

end MetricsEvent

namespace Metrics

variable {m : Metrics} {events events' : List MetricsEvent}

/-- Counts all that happened. -/
def recordAll (m : Metrics) (events : List MetricsEvent) : Metrics :=
  events.foldl record m

theorem recordAll_append :
  m.recordAll (events ++ events') = (m.recordAll events).recordAll events'
  := List.foldl_append

/-- The counts that the metrics consist of. -/
inductive Counter where
  | requests
  | outcomes (isSuccess : Bool)
  | rateLimited
  | offTopic
  | closedChats
  | timed (endpoint : Endpoint)

namespace Counter

/-- What a count has come to. -/
def value (m : Metrics) : Counter → UInt64
  | .requests => m.total
  | .outcomes true => m.successful
  | .outcomes false => m.failed
  | .rateLimited => m.rateLimited
  | .offTopic => m.offTopic
  | .closedChats => m.closedChats
  | .timed endpoint => (m.timing endpoint).count

/-- The events that a count counts. -/
def covers : Counter → MetricsEvent → Bool
  | .requests => MetricsEvent.isRequest
  | .outcomes isSuccess => MetricsEvent.isRequestOf isSuccess
  | .rateLimited => MetricsEvent.isRateLimited
  | .offTopic => MetricsEvent.isOffTopic
  | .closedChats => MetricsEvent.isClosing
  | .timed endpoint => MetricsEvent.isTimed endpoint

variable (c : Counter)

theorem value_zero :
  c.value .zero = 0
  := by
  cases c with
  | outcomes isSuccess =>
    cases isSuccess with
    | _ => rfl
  | timed endpoint =>
    cases endpoint with
    | _ => rfl
  | _ => rfl

/-- A count goes up by one with every event that it counts, and with nothing else. -/
theorem value_record (m : Metrics) (e : MetricsEvent) :
  c.value (m.record e) = if c.covers e then c.value m + 1 else c.value m
  := by
  cases c with
  | outcomes isSuccess =>
    cases isSuccess with
    | _ =>
      fun_cases record m e
      all_goals rfl
  | timed endpoint =>
    cases endpoint with
    | _ =>
      fun_cases record m e
      all_goals rfl
  | _ =>
    fun_cases record m e
    all_goals rfl

theorem value_recordAll (m : Metrics) (events : List MetricsEvent) :
  c.value (m.recordAll events) = c.value m + UInt64.ofNat (events.countP c.covers)
  := by
  induction events generalizing m with
  | nil => exact (UInt64.add_zero _).symm
  | cons e events ih =>
    rw [recordAll, List.foldl_cons, ← recordAll, ih, value_record, List.countP_cons]
    split
    · rw [UInt64.add_assoc, UInt64.add_comm 1, UInt64.ofNat_add]
      rfl
    · rfl

/-- A count that starts at zero is the number of events that it counts. -/
theorem toNat_value_recordAll (hfew : events.countP c.covers < UInt64.size) :
  (c.value (recordAll .zero events)).toNat = events.countP c.covers
  := by
  rw [value_recordAll, value_zero, UInt64.zero_add]
  apply UInt64.toNat_ofNat_of_lt' hfew

end Counter

end Metrics

end HadithService
