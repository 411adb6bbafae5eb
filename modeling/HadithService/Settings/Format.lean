import HadithService.Json.Decoder
import HadithService.Settings.Basic
import HadithService.Text.Printable

/-!
# The written forms of settings

Settings have a form in JSON, which is logged at the start and can be read back, and a form for
the eye.  Neither shows a key: in JSON the keys are left out, and for the eye they are redacted.
-/

namespace HadithService.Settings

/-- Settings as a JSON value, without the keys. -/
def toJson (s : Settings) : Json :=
  .object
    [("server", .object
      [("port", Json.ofNat s.server.port.toNat),
       ("public_api_base", Json.ofText? s.server.publicBase),
       ("json_logs", .bool s.server.jsonLogs)]),
     ("ai", .object
      [("base_url", .string s.ai.baseUrl),
       ("model", .string s.ai.model),
       ("request_timeout_secs", Json.ofNat s.ai.timeoutSecs.toNat)]),
     ("rate_limits", .object
      [("chat_per_window", Json.ofNat s.limits.chatPerWindow.toNat),
       ("explain_per_window", Json.ofNat s.limits.explainPerWindow.toNat),
       ("window_secs", Json.ofNat s.limits.windowSecs.toNat),
       ("off_topic_threshold", Json.ofNat s.limits.offTopicThreshold.toNat),
       ("off_topic_timeout_secs", Json.ofNat s.limits.offTopicTimeoutSecs.toNat)]),
     ("upstream", .object
      [("editions_url", .string s.upstream.editionsUrl),
       ("request_timeout_secs", Json.ofNat s.upstream.timeoutSecs.toNat)]),
     ("cache", .object
      [("ttl_secs", Json.ofNat s.cache.ttlSecs.toNat),
       ("max_entries", Json.ofNat s.cache.maxEntries.toNat),
       ("prune_interval_secs", Json.ofNat s.cache.pruneIntervalSecs.toNat)])]

/-- Reads a number of sixteen bits. -/
def word16 : Decoder UInt16 := fun levels v =>
  (Decoder.below UInt16.size levels v).map UInt16.ofNat

/-- Reads a number of thirty-two bits. -/
def word32 : Decoder UInt32 := fun levels v =>
  (Decoder.below UInt32.size levels v).map UInt32.ofNat

/-- Reads a number of sixty-four bits. -/
def word64 : Decoder UInt64 := fun levels v =>
  (Decoder.below UInt64.size levels v).map UInt64.ofNat

/-- Reads the settings of the server. -/
def serverDecoder : Decoder ServerSettings :=
  Decoder.structured ["port", "public_api_base", "json_logs"] fun f => do
    let port ← f.required "port" word16
    let publicBase ← f.optionalIfNamed "public_api_base" Decoder.text
    let jsonLogs ← f.required "json_logs" Decoder.bool
    return { port, publicBase, jsonLogs }

/-- Reads the settings of the model. -/
def modelDecoder : Decoder ModelSettings :=
  Decoder.structured ["api_key", "base_url", "model", "request_timeout_secs"] fun f => do
    let apiKey ← f.optionalIfNamed "api_key" Decoder.text
    let baseUrl ← f.required "base_url" Decoder.text
    let model ← f.required "model" Decoder.text
    let timeoutSecs ← f.required "request_timeout_secs" word64
    return { apiKey, baseUrl, model, timeoutSecs }

/-- Reads the limits. -/
def limitsDecoder : Decoder LimitSettings :=
  Decoder.structured
    ["chat_per_window", "explain_per_window", "window_secs", "off_topic_threshold",
     "off_topic_timeout_secs"]
    fun f => do
      let chatPerWindow ← f.required "chat_per_window" word32
      let explainPerWindow ← f.required "explain_per_window" word32
      let windowSecs ← f.required "window_secs" word64
      let offTopicThreshold ← f.required "off_topic_threshold" word32
      let offTopicTimeoutSecs ← f.required "off_topic_timeout_secs" word64
      return { chatPerWindow, explainPerWindow, windowSecs, offTopicThreshold,
               offTopicTimeoutSecs }

/-- Reads the settings of the source of editions. -/
def upstreamDecoder : Decoder UpstreamSettings :=
  Decoder.structured ["editions_url", "request_timeout_secs", "sunnah_api_key"] fun f => do
    let editionsUrl ← f.required "editions_url" Decoder.text
    let timeoutSecs ← f.required "request_timeout_secs" word64
    let sunnahApiKey ← f.optionalIfNamed "sunnah_api_key" Decoder.text
    return { editionsUrl, timeoutSecs, sunnahApiKey }

/-- Reads the settings of the cache. -/
def cacheDecoder : Decoder CacheSettings :=
  Decoder.structured ["ttl_secs", "max_entries", "prune_interval_secs"] fun f => do
    let ttlSecs ← f.required "ttl_secs" word64
    let maxEntries ← f.required "max_entries" word64
    let pruneIntervalSecs ← f.required "prune_interval_secs" word64
    return { ttlSecs, maxEntries, pruneIntervalSecs }

/-- Reads settings. -/
def decoder : Decoder Settings :=
  Decoder.structured ["server", "ai", "rate_limits", "upstream", "cache"] fun f => do
    let server ← f.required "server" serverDecoder
    let ai ← f.required "ai" modelDecoder
    let limits ← f.required "rate_limits" limitsDecoder
    let upstream ← f.required "upstream" upstreamDecoder
    let cache ← f.required "cache" cacheDecoder
    return { server, ai, limits, upstream, cache }

/-- The settings that a JSON text is. -/
def read? (text : String) : Option Settings :=
  (Draft.whole? (Symbol.ofText text)).bind decoder.run

/-- A record for the eye: its name and its fields. -/
def shownRecord (name : String) (fields : List (String × String)) : String :=
  name ++ " \x7b " ++ String.intercalate ", " (fields.map fun f => f.1 ++ ": " ++ f.2) ++ " \x7d"

/-- A value for the eye that may be missing. -/
def shownOption : Option String → String
  | none => "None"
  | some s => "Some(" ++ Text.quoted s ++ ")"

/-- A key for the eye. -/
def shownKey (key : Option String) : String :=
  shownOption (key.map fun _ => "<redacted>")

/-- Settings for the eye. -/
def shown (s : Settings) : String :=
  shownRecord "AppConfig"
    [("server", shownRecord "ServerConfig"
      [("port", toString s.server.port.toNat),
       ("public_api_base", shownOption s.server.publicBase),
       ("json_logs", if s.server.jsonLogs then "true" else "false")]),
     ("ai", shownRecord "AiConfig"
      [("api_key", shownKey s.ai.apiKey),
       ("base_url", Text.quoted s.ai.baseUrl),
       ("model", Text.quoted s.ai.model),
       ("request_timeout_secs", toString s.ai.timeoutSecs.toNat)]),
     ("rate_limits", shownRecord "RateLimitConfig"
      [("chat_per_window", toString s.limits.chatPerWindow.toNat),
       ("explain_per_window", toString s.limits.explainPerWindow.toNat),
       ("window_secs", toString s.limits.windowSecs.toNat),
       ("off_topic_threshold", toString s.limits.offTopicThreshold.toNat),
       ("off_topic_timeout_secs", toString s.limits.offTopicTimeoutSecs.toNat)]),
     ("upstream", shownRecord "UpstreamConfig"
      [("editions_url", Text.quoted s.upstream.editionsUrl),
       ("request_timeout_secs", toString s.upstream.timeoutSecs.toNat),
       ("sunnah_api_key", shownKey s.upstream.sunnahApiKey)]),
     ("cache", shownRecord "CacheConfig"
      [("ttl_secs", toString s.cache.ttlSecs.toNat),
       ("max_entries", toString s.cache.maxEntries.toNat),
       ("prune_interval_secs", toString s.cache.pruneIntervalSecs.toNat)])]

end HadithService.Settings
