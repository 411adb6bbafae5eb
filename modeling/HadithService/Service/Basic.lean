import HadithService.Editions.Rounds
import HadithService.Http.Message
import HadithService.Limits.OffTopic
import HadithService.Limits.RateLimiter
import HadithService.Metrics
import HadithService.Settings.Basic

/-!
# The state of the service

Everything that one request can leave behind for another: the editions that were fetched, who
has called how often, which conversations have strayed from the topic, and the counts.
-/

namespace HadithService

/-- The state of the service.  `isConfigured` says whether there is a model to be asked. -/
structure Service where
  settings : Settings
  isConfigured : Bool
  store : EditionStore
  explainLimiter : RateLimiter
  chatLimiter : RateLimiter
  offTopic : OffTopicTracker
  metrics : Metrics

/-- What a sweep has dropped. -/
structure Swept where
  limiterEntries : Nat
  offTopicEntries : Nat
  editions : Nat
deriving DecidableEq, Repr

namespace Service

/-- A service that has seen no requests. -/
def new (settings : Settings) (isConfigured : Bool) : Service where
  settings := settings
  isConfigured := isConfigured
  store := EditionStore.empty (Duration.seconds settings.cache.ttlSecs.toNat)
    settings.cache.maxEntries.toNat
  explainLimiter := RateLimiter.new settings.limits.explainPerWindow.toNat
    (Duration.seconds settings.limits.windowSecs.toNat)
  chatLimiter := RateLimiter.new settings.limits.chatPerWindow.toNat
    (Duration.seconds settings.limits.windowSecs.toNat)
  offTopic := OffTopicTracker.new settings.limits.offTopicThreshold.toNat
    (Duration.seconds settings.limits.offTopicTimeoutSecs.toNat)
  metrics := Metrics.zero

/-- Counts what happened. -/
def count (s : Service) (e : MetricsEvent) : Service :=
  { s with metrics := s.metrics.record e }

/-- Counts a request that came at an instant and is answered at another. -/
def conclude (s : Service) (endpoint : Endpoint) (since now : Instant) (r : Http.Response) :
    Service :=
  (s.count (.timed endpoint ((now - since) / 1000))).count (.request r.isSuccess)

/-- Drops everything that has expired, and tells how much it was. -/
def prune (s : Service) (now : Instant) : Swept × Service :=
  let (explained, explainLimiter) := s.explainLimiter.prune now
  let (chatted, chatLimiter) := s.chatLimiter.prune now
  let (strayed, offTopic) := s.offTopic.prune now
  let cache := s.store.cache.prune now
  (⟨explained + chatted, strayed, s.store.cache.editions.length - cache.editions.length⟩,
    { s with
      store := s.store.setCache cache
      explainLimiter := explainLimiter
      chatLimiter := chatLimiter
      offTopic := offTopic })

/-- What some periods of waiting leave.  A sweep is made between one period and the next, so a
single period has none. -/
def idle (s : Service) (periods : Nat) (now : Instant) : Service :=
  (periods - 1).repeat (fun s => (s.prune now).2) s

end Service

end HadithService
