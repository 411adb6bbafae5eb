import HadithService.Editions.Cache
import HadithService.Json.Basic

/-!
# Metrics

The service counts its requests, by outcome and by kind, and adds up how long they took.  All
counts are words of 64 bits.  A snapshot gives the counts and, for each kind, the mean time in
milliseconds.
-/

namespace HadithService

/-- The kinds of requests that are timed. -/
inductive Endpoint where
  | search
  | explain
  | chat
deriving DecidableEq, Repr

/-- What happened, as far as it is counted. -/
inductive MetricsEvent where
  | request (isSuccess : Bool)
  | rateLimited
  | offTopic (isClosing : Bool)
  | timed (endpoint : Endpoint) (micros : Nat)
deriving DecidableEq, Repr

/-- How often a kind of request was made and how many microseconds it took in all. -/
structure Timing where
  count : UInt64
  micros : UInt64
deriving DecidableEq, Repr

/-- Counts a request that took some microseconds. -/
def Timing.add (t : Timing) (micros : Nat) : Timing :=
  ⟨t.count + 1, t.micros + UInt64.ofNat micros⟩

/-- The counts. -/
structure Metrics where
  total : UInt64
  successful : UInt64
  failed : UInt64
  rateLimited : UInt64
  offTopic : UInt64
  closedChats : UInt64
  search : Timing
  explain : Timing
  chat : Timing
deriving DecidableEq, Repr

namespace Metrics

/-- Nothing counted. -/
def zero : Metrics :=
  ⟨0, 0, 0, 0, 0, 0, ⟨0, 0⟩, ⟨0, 0⟩, ⟨0, 0⟩⟩

/-- Counts what happened. -/
def record (m : Metrics) : MetricsEvent → Metrics
  | .request true => { m with total := m.total + 1, successful := m.successful + 1 }
  | .request false => { m with total := m.total + 1, failed := m.failed + 1 }
  | .rateLimited => { m with rateLimited := m.rateLimited + 1 }
  | .offTopic true => { m with offTopic := m.offTopic + 1, closedChats := m.closedChats + 1 }
  | .offTopic false => { m with offTopic := m.offTopic + 1 }
  | .timed .search micros => { m with search := m.search.add micros }
  | .timed .explain micros => { m with explain := m.explain.add micros }
  | .timed .chat micros => { m with chat := m.chat.add micros }

/-- The mean time in milliseconds, zero when nothing was timed. -/
def meanMillis (t : Timing) : Float :=
  if t.count == 0 then 0 else t.micros.toFloat / t.count.toFloat / 1000

/-- A count as a JSON value. -/
def countJson (n : UInt64) : Json :=
  Json.ofNat n.toNat

/-- A mean time as a JSON value. -/
def meanJson (t : Timing) : Json :=
  .number (.real (meanMillis t).toBits)

/-- What is told about the cache, as a JSON value. -/
def cacheJson (s : CacheStats) : Json :=
  .object [("editions_cached", Json.ofNat s.editions), ("hits", Json.ofNat s.hits),
    ("misses", Json.ofNat s.misses)]

/-- A snapshot of the counts and of the cache. -/
def snapshot (m : Metrics) (cache : CacheStats) : Json :=
  .object
    [("total_requests", countJson m.total),
     ("successful_requests", countJson m.successful),
     ("failed_requests", countJson m.failed),
     ("rate_limited_requests", countJson m.rateLimited),
     ("off_topic_rejections", countJson m.offTopic),
     ("closed_chats", countJson m.closedChats),
     ("search_requests", countJson m.search.count),
     ("explain_requests", countJson m.explain.count),
     ("chat_requests", countJson m.chat.count),
     ("avg_search_time_ms", meanJson m.search),
     ("avg_explain_time_ms", meanJson m.explain),
     ("avg_chat_time_ms", meanJson m.chat),
     ("cache", cacheJson cache)]

end Metrics

end HadithService
