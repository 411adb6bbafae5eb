import HadithService.Decimal.Whole
import HadithService.Http.Call
import HadithService.Text.Sanitize
import HadithService.Text.Utf8
import HadithService.Text.Words

/-!
# Calls in bytes

How a call is written to a connection that is closed after the answer, and how the answer is
read from it.  An answer that says how long its body is has broken off if it is shorter.
-/

namespace HadithService.Http.Wire

/-- A line of the head of a call. -/
def headLine (h : Header) : String :=
  h.name ++ ": " ++ h.value ++ "\r\n"

/-- The server of an address, as a header names it. -/
def authority (u : Url) : String :=
  match u.port with
  | none => u.host
  | some port => u.host ++ ":" ++ toString port

/-- The bytes of a call. -/
def bytesOf (c : Call) : List UInt8 :=
  let body := match c.body with
    | none => []
    | some v => v.render.toUTF8.toList
  let length := if c.body.isSome then [⟨"content-length", toString body.length⟩] else []
  let headers := ⟨"host", authority c.url⟩ :: c.headers ++ length ++ [⟨"connection", "close"⟩]
  let head := c.method ++ " " ++ c.url.target ++ " HTTP/1.0\r\n" ++
    String.join (headers.map headLine) ++ "\r\n"
  head.toUTF8.toList ++ body

/-- The bytes before and after the first empty line. -/
def aroundBlankLine : List UInt8 → Option (List UInt8 × List UInt8)
  | 0x0d :: 0x0a :: 0x0d :: 0x0a :: rest => some ([], rest)
  | b :: rest => (aroundBlankLine rest).map fun (before, after) => (b :: before, after)
  | [] => none

/-- The lines of the head of an answer. -/
def linesOf (head : List UInt8) : List (List Char) :=
  (Text.pieces (· == '\n') (Symbol.toText (Symbol.ofBytes head)).toList).map Text.trimChars

/-- The status in the first line of an answer. -/
def status? (line : List Char) : Option Nat :=
  match Text.words (· == ' ') line with
  | _ :: code :: _ => (Decimal.digitsBelow 1000 0 code).toOption
  | _ => none

/-- The header that a line is. -/
def header? (line : List Char) : Option Header :=
  match line.dropWhile fun c => c != ':' with
  | [] => none
  | _ :: value =>
    some ⟨String.ofList (line.takeWhile fun c => c != ':'), String.ofList (Text.trimChars value)⟩

/-- A body of the length that the headers say it has; none if it is shorter. -/
def bodyOf (headers : List Header) (body : List UInt8) : Option (List UInt8) :=
  match (Http.header? headers "content-length").map (Decimal.wholeBelow UInt64.size) with
  | some (.ok n) => if body.length < n then none else some (body.take n)
  | _ => some body

/-- The outcome of a call, given all that came back on the connection. -/
def outcomeOf (bytes : List UInt8) : CallOutcome :=
  match aroundBlankLine bytes with
  | none => .failed
  | some (head, body) =>
    match linesOf head with
    | [] => .failed
    | first :: rest =>
      match status? first with
      | none => .failed
      | some status => .answered status (bodyOf (rest.filterMap header?) body)

end HadithService.Http.Wire
