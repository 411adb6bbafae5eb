import HadithService.Http.Message
import HadithService.Http.Url

/-!
# Calls of other servers

What the service sends to another server, and what can come of it.  How calls are carried out is
left to a transport.
-/

namespace HadithService.Http

/-- A call. -/
structure Call where
  method : String
  url : Url
  headers : List Header
  body : Option Json

/-- What comes of a call: no connection, no answer in time, or an answer with a status and a
body, which is missing if the connection broke off. -/
inductive CallOutcome where
  | failed
  | timedOut
  | answered (status : Nat) (body : Option (List UInt8))

/-- What carries out calls. -/
abbrev Transport := Call → CallOutcome

/-- A transport that never reaches anybody. -/
def unreachable : Transport := fun _ => .failed

/-- Whether a status tells of a success. -/
def isSuccessStatus (code : Nat) : Bool :=
  200 ≤ code && code < 300

end HadithService.Http
