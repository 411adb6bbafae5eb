import HadithService.Assistant.Message
import HadithService.Http.Call
import HadithService.Http.Sharing
import HadithService.Settings.Basic

/-!
# The model behind a server

A chat model is asked by a call of its server.  The key for it is sent along; without one
nothing is sent at all.  The server answers with a list of choices, of which the first one counts.
-/

namespace HadithService

/-- Where a chat model is asked, with which key, and which one it is. -/
structure ModelServer where
  baseUrl : String
  apiKey : Option String
  model : String
deriving DecidableEq, Repr

namespace ModelServer

/-- The server that settings name.  A blank key is none. -/
def ofSettings (s : ModelSettings) : ModelServer where
  baseUrl := Http.Url.withoutLastSlashes s.baseUrl
  apiKey := s.apiKey.filter fun key => !Text.isBlankText key
  model := s.model

/-- Whether there is a key. -/
def isConfigured (m : ModelServer) : Bool :=
  m.apiKey.isSome

/-- The temperature of a request: the number that its shortest decimal is. -/
def temperature (r : ModelRequest) : Json :=
  (Json.read? (Symbol.ofText (Decimal.scientificSingle r.temperature))).getD .null

/-- What is sent. -/
def content (m : ModelServer) (r : ModelRequest) : Json :=
  .object [("model", .string m.model), ("messages", .array (r.messages.map Message.toJson)),
    ("temperature", temperature r), ("max_tokens", Json.ofNat r.maxTokens)]

/-- The call that asks the model with a key, if the address and the key can be used. -/
def callWith? (m : ModelServer) (key : String) (r : ModelRequest) : Option Http.Call :=
  match Http.Url.read? (m.baseUrl ++ "/chat/completions") with
  | none => none
  | some url =>
    if Http.isHeaderValue key then
      some ⟨"POST", url,
        [⟨"accept", "*/*"⟩, ⟨"authorization", "Bearer " ++ key⟩,
          ⟨"content-type", "application/json"⟩],
        some (m.content r)⟩
    else none

/-- The call that asks the model, or why there is none. -/
def call (m : ModelServer) (r : ModelRequest) : Except ModelError Http.Call :=
  match m.apiKey with
  | none => .error .missingKey
  | some key =>
    match m.callWith? key r with
    | none => .error .request
    | some call => .ok call

/-- Reads a choice, of which only the text counts. -/
def choiceDecoder : Decoder (Option String) :=
  Decoder.structured ["message"] fun f =>
    f.required "message" (Decoder.structured ["content"] fun f => f.optional "content" Decoder.text)

/-- Reads the choices of an answer. -/
def choicesDecoder : Decoder (List (Option String)) :=
  Decoder.structured ["choices"] fun f => f.withDefault "choices" (Decoder.list choiceDecoder) []

/-- The text of the first choice in the body of an answer. -/
def textOf? (body : List UInt8) : Option String :=
  ((Draft.whole? (Symbol.ofBytes body)).bind choicesDecoder.run).map fun choices =>
    choices.head?.join.getD ""

/-- What the model replied when a call came to an outcome. -/
def reply : Http.CallOutcome → ModelReply
  | .failed => .error .request
  | .timedOut => .error .timeout
  | .answered status body =>
    if !Http.isSuccessStatus status then .error (.status status)
    else
      match body.bind textOf? with
      | some text => .ok text
      | none => .error (.invalidResponse "error decoding response body")

/-- Asks the model. -/
def ask (m : ModelServer) (transport : Http.Transport) (r : ModelRequest) : ModelReply :=
  match m.call r with
  | .error e => .error e
  | .ok call => reply (transport call)

end ModelServer

end HadithService
