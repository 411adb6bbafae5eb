import HadithService.Clock
import HadithService.Http.Address
import HadithService.Http.Target
import HadithService.Json.Basic
import HadithService.Text.Sanitize

/-!
# Requests and answers

A request as it reaches the service: the identifier it is given and the instant at which it comes,
its method and target, its headers in their order, the address it comes from and the bytes of its
body.  Who makes it is the first address a proxy says it forwards for, or else the address that a
proxy gives as the real one, or else the address that the request comes from (`clientOf`).  An answer
has a status, headers and a body that is empty, a text or a JSON value.  An error of a server behind
the service is passed on to the client under the same status (`forwardedStatus`).
-/

namespace HadithService.Http

/-- A header. -/
structure Header where
  name : String
  value : String
deriving DecidableEq, Repr

/-- A request. -/
structure Request where
  id : String
  arrival : Instant
  method : String
  target : Target
  headers : List Header
  peer : Option Address
  body : List UInt8

/-- What an answer contains. -/
inductive Body where
  | empty
  | text (s : String)
  | json (v : Json)

/-- An answer. -/
structure Response where
  status : Nat
  headers : List Header
  body : Body

/-- The value of the first header with a name, in any case. -/
def header? (headers : List Header) (name : String) : Option String :=
  (headers.find? fun h => h.name.toList.map Char.toLower == name.toList).map Header.value

/-- A character that a header can show: a visible one of ASCII, a space or a tab. -/
def isShown (c : Char) : Bool :=
  (0x20 ≤ c.toNat && c.toNat < 0x7f) || c == '\t'

/-- The value of the first header with a name, if all of it can be shown. -/
def shownHeader? (headers : List Header) (name : String) : Option String :=
  (header? headers name).filter fun v => v.toList.all isShown

/-! ### Clients -/

/-- The text before the first comma. -/
def beforeComma (s : String) : List Char :=
  s.toList.takeWhile fun c => c != ','

/-- The first entry of a header, if it is not blank. -/
def firstListed? (headers : List Header) (name : String) : Option String :=
  ((shownHeader? headers name).map fun v => Text.trimChars (beforeComma v)).bind fun cs =>
    if cs.isEmpty then none else some (String.ofList cs)

/-- The client of a request. -/
def clientOf (headers : List Header) (peer : Option Address) : String :=
  (firstListed? headers "x-forwarded-for"
    <|> firstListed? headers "x-real-ip"
    <|> peer.map Address.text).getD "unknown"

/-! ### Answers -/

/-- An answer without a body. -/
def Response.bare (status : Nat) (headers : List Header) : Response :=
  ⟨status, headers, .empty⟩

/-- An answer with a JSON value. -/
def Response.ofJson (status : Nat) (v : Json) : Response :=
  ⟨status, [⟨"content-type", "application/json"⟩], .json v⟩

/-- An answer with a text. -/
def Response.ofText (status : Nat) (s : String) : Response :=
  ⟨status, [⟨"content-type", "text/plain; charset=utf-8"⟩], .text s⟩

/-- An answer with further headers. -/
def Response.withHeaders (r : Response) (headers : List Header) : Response :=
  { r with headers := r.headers ++ headers }

/-- An answer without its body. -/
def Response.withoutBody (r : Response) : Response :=
  { r with body := .empty }

/-- Whether an answer is a success. -/
def Response.isSuccess (r : Response) : Bool :=
  200 ≤ r.status && r.status < 300

/-- The status that says that a server behind this one failed. -/
def badGateway : Nat := 502

/-- Whether a status tells of an error. -/
def isErrorStatus (code : Nat) : Bool :=
  400 ≤ code && code < 600

/-- The status under which the client learns that a server behind this one answered with
`code`. -/
def forwardedStatus (code : Nat) : Nat :=
  if isErrorStatus code then code else badGateway

/-! ### Identifiers

Every request is given an identifier that is made of sixteen random bytes: hexadecimal digits in
five groups.  A few of the bits are not random but say which kind of identifier it is. -/

namespace Identifier

/-- The digits of a byte. -/
def digits (b : UInt8) : List Char :=
  [hexDigit (b.toNat / 16), hexDigit b.toNat]

/-- The byte at a place, with the bits that say what kind of identifier this is. -/
def marked (i : Nat) (b : UInt8) : UInt8 :=
  if i == 6 then b &&& 0x0f ||| 0x40
  else if i == 8 then b &&& 0x3f ||| 0x80
  else b

/-- The identifier that some random bytes make. -/
def ofBytes (bytes : List UInt8) : String :=
  String.ofList (bytes.zipIdx.flatMap fun (b, i) =>
    (if [4, 6, 8, 10].contains i then ['-'] else []) ++ digits (marked i b))

end Identifier

end HadithService.Http
