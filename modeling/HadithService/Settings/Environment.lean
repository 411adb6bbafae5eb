import HadithService.Decimal.Whole
import HadithService.Settings.Basic
import HadithService.Text.Printable
import HadithService.Text.Sanitize

/-!
# Settings from the environment

Settings are made by variables of the environment.  A variable that is blank counts as not set,
and blanks around a value do not count.  A value that should be a number and is none, or is too
large, is an error, and the first error is the one that is told.
-/

namespace HadithService

/-- A variable with a value that cannot be used. -/
structure SettingError where
  name : String
  value : String
  cause : NumberFault
deriving DecidableEq, Repr

/-- How the error is told. -/
def SettingError.message (e : SettingError) : String :=
  "Invalid " ++ e.name ++ " value: " ++ Text.quoted e.value

namespace Settings

/-- A text in which capital letters of the Latin alphabet are small. -/
def asciiLower (s : String) : List Char :=
  s.toList.map Char.toLower

/-- The value of a variable, if it is set. -/
def given? (lookup : String → Option String) (name : String) : Option String :=
  ((lookup name).bind Text.unlessBlank).map Text.trim

/-- The number that a variable is set to, or a default. -/
def number (lookup : String → Option String) (name : String) (bound default : Nat) :
    Except SettingError Nat :=
  match given? lookup name with
  | none => .ok default
  | some value =>
    match Decimal.wholeBelow bound value with
    | .ok n => .ok n
    | .error cause => .error ⟨name, value, cause⟩

/-- The variables that settings are made by. -/
def variableNames : List String :=
  ["PORT", "NEXT_PUBLIC_API_BASE", "LOG_FORMAT", "OPENAI_API_KEY", "OPENAI_BASE_URL",
   "OPENAI_MODEL", "CHAT_RATE_LIMIT", "EXPLAIN_RATE_LIMIT", "HADITH_API_BASE", "SUNNAH_API_KEY",
   "CACHE_TTL_SECS"]

/-- The numbers among the settings that can be made. -/
structure Numbers where
  port : Nat
  chat : Nat
  explain : Nat
  ttl : Nat

/-- The numbers that the variables of an environment are set to. -/
def numbers (lookup : String → Option String) : Except SettingError Numbers := do
  let d := Settings.default
  let port ← number lookup "PORT" UInt16.size d.server.port.toNat
  let chat ← number lookup "CHAT_RATE_LIMIT" UInt32.size d.limits.chatPerWindow.toNat
  let explain ← number lookup "EXPLAIN_RATE_LIMIT" UInt32.size d.limits.explainPerWindow.toNat
  let ttl ← number lookup "CACHE_TTL_SECS" UInt64.size d.cache.ttlSecs.toNat
  return ⟨port, chat, explain, ttl⟩

/-- The settings that the values of variables make, the numbers among them being known. -/
def made (get : String → Option String) (n : Numbers) : Settings :=
  let d := Settings.default
  { server := {
      port := UInt16.ofNat n.port
      publicBase := get "NEXT_PUBLIC_API_BASE"
      jsonLogs := (get "LOG_FORMAT").any fun f => asciiLower f == ['j', 's', 'o', 'n'] }
    ai := { d.ai with
      apiKey := get "OPENAI_API_KEY"
      baseUrl := (get "OPENAI_BASE_URL").getD d.ai.baseUrl
      model := (get "OPENAI_MODEL").getD d.ai.model }
    limits := { d.limits with
      chatPerWindow := UInt32.ofNat n.chat
      explainPerWindow := UInt32.ofNat n.explain }
    upstream := { d.upstream with
      editionsUrl := (get "HADITH_API_BASE").getD d.upstream.editionsUrl
      sunnahApiKey := get "SUNNAH_API_KEY" }
    cache := { d.cache with ttlSecs := UInt64.ofNat n.ttl } }

/-- The settings that the variables of an environment make. -/
def ofEnvironment (lookup : String → Option String) : Except SettingError Settings :=
  (numbers lookup).map (made (given? lookup))

end Settings

end HadithService
