/-!
# Settings

Everything about the service that can be set, with the values that hold when nothing is.
-/

namespace HadithService

/-- Where the service listens, who may call it from a page, and how it logs. -/
structure ServerSettings where
  port : UInt16
  publicBase : Option String
  jsonLogs : Bool
deriving DecidableEq, Repr

/-- The chat model and where it is asked. -/
structure ModelSettings where
  apiKey : Option String
  baseUrl : String
  model : String
  timeoutSecs : UInt64
deriving DecidableEq, Repr

/-- How often clients may call, and how long they may stray from the topic. -/
structure LimitSettings where
  chatPerWindow : UInt32
  explainPerWindow : UInt32
  windowSecs : UInt64
  offTopicThreshold : UInt32
  offTopicTimeoutSecs : UInt64
deriving DecidableEq, Repr

/-- Where editions are fetched. -/
structure UpstreamSettings where
  editionsUrl : String
  timeoutSecs : UInt64
  sunnahApiKey : Option String
deriving DecidableEq, Repr

/-- How long and how many editions are kept, and how often what has expired is swept out. -/
structure CacheSettings where
  ttlSecs : UInt64
  maxEntries : UInt64
  pruneIntervalSecs : UInt64
deriving DecidableEq, Repr

/-- All settings. -/
structure Settings where
  server : ServerSettings
  ai : ModelSettings
  limits : LimitSettings
  upstream : UpstreamSettings
  cache : CacheSettings
deriving DecidableEq, Repr

namespace Settings

/-- The settings that hold when nothing is set. -/
def default : Settings where
  server := { port := 3000, publicBase := none, jsonLogs := false }
  ai := {
    apiKey := none
    baseUrl := "https://api.openai.com/v1"
    model := "gpt-3.5-turbo"
    timeoutSecs := 30 }
  limits := {
    chatPerWindow := 50
    explainPerWindow := 20
    windowSecs := 24 * 60 * 60
    offTopicThreshold := 3
    offTopicTimeoutSecs := 30 * 60 }
  upstream := {
    editionsUrl := "https://cdn.jsdelivr.net/gh/fawazahmed0/hadith-api@1/editions"
    timeoutSecs := 30
    sunnahApiKey := none }
  cache := { ttlSecs := 60 * 60, maxEntries := 64, pruneIntervalSecs := 10 * 60 }

/-- Whether a key for the model has a form that is accepted without a warning. -/
def isSoundKey (key : String) : Bool :=
  10 ≤ key.utf8ByteSize && !key.toList.contains ' '

/-- What an operator should know before the service starts. -/
def warnings (s : Settings) : List String :=
  (match s.ai.apiKey with
    | none => ["Missing OPENAI_API_KEY: /api/explain and /api/chat will answer 500"]
    | some key => if isSoundKey key then [] else ["OPENAI_API_KEY has invalid format"])
  ++ (if s.upstream.sunnahApiKey.isSome then
      ["SUNNAH_API_KEY is set but the legacy sunnah.com source is not supported; ignoring it"]
    else [])

end Settings

end HadithService
