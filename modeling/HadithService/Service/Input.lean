import HadithService.Decimal.Whole
import HadithService.Http.Form
import HadithService.Http.MediaType
import HadithService.Search.Query
import HadithService.Service.Refusal

/-!
# What clients send

A search comes in the query of its target, a request for the assistant in a JSON text.  Of a
query no field may be given twice.  Of a body everything after the first JSON value is passed
over; its media type is looked at before its contents.
-/

namespace HadithService.Input

/-- The greatest number of bytes of a body. -/
def bodyLimit : Nat := 2097152

/-- The value that a request contains in JSON. -/
def ofBody {α : Type} (d : Decoder α) (r : Http.Request) : Except Refusal α :=
  if !(Http.shownHeader? r.headers "content-type").any Http.MediaType.isJson then
    .error .mediaType
  else if bodyLimit < r.body.length then .error .unreadable
  else
    match (Draft.leading? (Symbol.ofBytes r.body)).bind d.run with
    | none => .error .unreadable
    | some a => .ok a

/-- What a client sends for an explanation. -/
structure Explain where
  text : Option String

/-- Reads what a client sends for an explanation. -/
def Explain.decoder : Decoder Explain :=
  Decoder.structured ["text"] fun f => do
    let text ← f.optional "text" Decoder.text
    return ⟨text⟩

/-- What a client sends when it asks a question.  The history may be anything. -/
structure Chat where
  hadith : Option String
  question : Option String
  history : Option Json
  session : Option String

/-- Reads what a client sends when it asks a question. -/
def Chat.decoder : Decoder Chat :=
  Decoder.structured ["hadithText", "userQuestion", "conversationHistory", "sessionId"]
    fun f => do
      let hadith ← f.optional "hadithText" Decoder.text
      let question ← f.optional "userQuestion" Decoder.text
      let history ← f.optional "conversationHistory" Draft.hold
      let session ← f.optional "sessionId" Decoder.text
      return ⟨hadith, question, history, session⟩

/-- The names of the fields of a search. -/
def searchFields : List String :=
  ["q", "collection", "limit"]

/-- The first name of a field that is given again, after some names. -/
def repeated? : List String → List String → Option String
  | _, [] => none
  | given, name :: rest =>
    if searchFields.contains name && given.contains name then some name
    else repeated? (name :: given) rest

/-- The value of a field. -/
def field? (pairs : List (String × String)) (name : String) : Option String :=
  (pairs.find? fun p => p.1 == name).map Prod.snd

/-- The limit that a text is, or none, so that the usual one holds. -/
def limit? (s : String) : Option Nat :=
  (Decimal.wholeBelow UInt64.size (Text.trim s)).toOption

/-- The search that a query is, or the name of a field that is given twice. -/
def search (query : String) : Except String Search.Query :=
  let pairs := Http.Form.pairs query
  match repeated? [] (pairs.map Prod.fst) with
  | some name => .error name
  | none =>
    .ok ⟨field? pairs "q", field? pairs "collection", (field? pairs "limit").bind limit?⟩

end HadithService.Input
