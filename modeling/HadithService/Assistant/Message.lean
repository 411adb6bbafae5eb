import HadithService.Json.Decoder

/-!
# Conversations with the model

What is sent to a chat model, and what can come back.  A message belongs to the instructions, to
the user or to the model itself.
-/

namespace HadithService

/-- Who speaks. -/
inductive Role where
  | system
  | user
  | assistant
deriving DecidableEq, Repr

/-- The name of a role. -/
def Role.name : Role → String
  | .system => "system"
  | .user => "user"
  | .assistant => "assistant"

/-- The role with a name. -/
def Role.ofName? (name : String) : Option Role :=
  [Role.system, .user, .assistant].find? fun r => r.name == name

/-- A message of a conversation. -/
structure Message where
  role : Role
  content : String
deriving DecidableEq, Repr

namespace Message

/-- A message as a JSON value. -/
def toJson (m : Message) : Json :=
  .object [("role", .string m.role.name), ("content", .string m.content)]

/-- Reads a message. -/
def decoder : Decoder Message :=
  Decoder.structured ["role", "content"] fun f => do
    let name ← f.required "role" Decoder.text
    let content ← f.required "content" Decoder.text
    let role ← Role.ofName? name
    return ⟨role, content⟩

end Message

/-- What a model is asked: a conversation to go on with, the temperature as the bits of a 32-bit
binary fraction, and the greatest length of the answer. -/
structure ModelRequest where
  messages : List Message
  temperature : UInt32
  maxTokens : Nat
deriving DecidableEq, Repr

/-- Why a model did not answer. -/
inductive ModelError where
  | missingKey
  | request
  | timeout
  | status (code : Nat)
  | invalidResponse (detail : String)
deriving DecidableEq, Repr

/-- How the failure is told.  The wording of a failure of the transport is not ours. -/
def ModelError.message : ModelError → Option String
  | .missingKey => some "no API key configured for the completion endpoint"
  | .request => none
  | .timeout => none
  | .status code => some ("completion endpoint returned status " ++ toString code)
  | .invalidResponse detail => some ("invalid completion response: " ++ detail)

/-- The outcome of asking a model. -/
abbrev ModelReply := Except ModelError String

end HadithService
