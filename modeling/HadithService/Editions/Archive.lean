import HadithService.Editions.Source
import HadithService.Http.Call

/-!
# The archive of editions

Editions are published as JSON texts by a server, each under its identifier.
-/

namespace HadithService

/-- The address under which editions are published. -/
structure Archive where
  baseUrl : String
deriving DecidableEq, Repr

namespace Archive

/-- The archive at an address. -/
def ofBase (url : String) : Archive :=
  ⟨Http.Url.withoutLastSlashes url⟩

/-- The address of an edition. -/
def url (a : Archive) (slug : String) : String :=
  a.baseUrl ++ "/" ++ slug ++ ".json"

/-- The call that fetches an edition, if its address can be used. -/
def call? (a : Archive) (slug : String) : Option Http.Call :=
  (Http.Url.read? (a.url slug)).map fun url =>
    ⟨"GET", url, [⟨"accept", "application/json"⟩, ⟨"user-agent", "BayyinahHub/1.0"⟩], none⟩

/-- The edition that was fetched when a call came to an outcome. -/
def fetched (slug : String) : Http.CallOutcome → Fetched
  | .failed => .error .request
  | .timedOut => .error .request
  | .answered status body =>
    if !Http.isSuccessStatus status then .error (.status status)
    else
      match body with
      | none => .error .request
      | some body => Fetched.ofDocument slug (Symbol.ofBytes body)

/-- Fetches an edition. -/
def fetch (a : Archive) (transport : Http.Transport) (slug : String) : Fetched :=
  match a.call? slug with
  | none => .error .request
  | some call => fetched slug (transport call)

end Archive

end HadithService
