import HadithService.Json.Numeral
import HadithService.Text.Utf8

/-!
# The tokens of a JSON text

`tokens` cuts a JSON text into marks, words, numerals and strings, one symbol at a time.  Where
it meets something that no JSON text contains it ends with a stray token.  A string may be sound
on the page and yet be no text, because bytes of it encode no character or an escape is half of
a surrogate pair: such a string is kept as `none`, and matters only to those who want it.
-/

namespace HadithService

/-- A piece of a JSON text. -/
inductive Token where
  | openArray
  | closeArray
  | openObject
  | closeObject
  | comma
  | colon
  | null
  | bool (b : Bool)
  | number (n : Numeral)
  | string (s : Option String)
  | stray
deriving DecidableEq, Repr

namespace Token

/-- The characters of a string so far, the last one first, if they are characters, and the
leading half of a surrogate pair that waits for the other one. -/
structure Content where
  chars : Option (List Char)
  half : Option Nat

namespace Content

/-- Adds a symbol.  A half that waits is lost, and the text with it. -/
def put (t : Content) (x : Symbol) : Content :=
  match t.half, x, t.chars with
  | none, some c, some cs => ⟨some (c :: cs), none⟩
  | _, _, _ => ⟨none, none⟩

/-- Adds a unit of sixteen bits. -/
def putUnit (t : Content) (n : Nat) : Content :=
  let isLeading := 0xd800 ≤ n && n < 0xdc00
  let isTrailing := 0xdc00 ≤ n && n < 0xe000
  match t.half with
  | some lead =>
    if isTrailing then
      let c := Char.ofNat (0x10000 + (lead - 0xd800) * 0x400 + (n - 0xdc00))
      ⟨t.chars.map (c :: ·), none⟩
    else ⟨none, none⟩
  | none =>
    if isLeading then ⟨t.chars, some n⟩
    else if isTrailing then ⟨none, none⟩
    else t.put (some (Char.ofNat n))

/-- The text, if there is one. -/
def text? (t : Content) : Option String :=
  if t.half.isSome then none else t.chars.map fun cs => String.ofList cs.reverse

end Content

/-- Where the reading stands: between tokens, inside a word or a numeral (its characters so far,
the last one first), inside a string, after a backslash in it, among the digits of an escape, or
past a stray symbol. -/
inductive Place where
  | between
  | word (cs : List Char)
  | numeral (cs : List Char)
  | string (t : Content)
  | escape (t : Content)
  | unit (t : Content) (missing : Nat) (value : Nat)
  | lost

/-- The token of a word. -/
def ofWord (cs : List Char) : Token :=
  if cs == ['n', 'u', 'l', 'l'] then .null
  else if cs == ['t', 'r', 'u', 'e'] then .bool true
  else if cs == ['f', 'a', 'l', 's', 'e'] then .bool false
  else .stray

/-- The token of the characters of a numeral. -/
def ofNumeral (cs : List Char) : Token :=
  match Numeral.ofChars? cs with
  | some n => .number n
  | none => .stray

/-- A character that may stand in a numeral. -/
def inNumeral (c : Char) : Bool :=
  c.isDigit || c == '-' || c == '+' || c == '.' || c == 'e' || c == 'E'

/-- The value of a hexadecimal digit. -/
def hexValue? (c : Char) : Option Nat :=
  if c.isDigit then some (c.toNat - '0'.toNat)
  else if 'a' ≤ c && c ≤ 'f' then some (c.toNat - 'a'.toNat + 10)
  else if 'A' ≤ c && c ≤ 'F' then some (c.toNat - 'A'.toNat + 10)
  else none

/-- The character that a backslash and a letter stand for. -/
def escape? (c : Char) : Option Char :=
  match c with
  | '"' => some '"'
  | '\\' => some '\\'
  | '/' => some '/'
  | 'b' => some '\x08'
  | 'f' => some '\x0c'
  | 'n' => some '\n'
  | 'r' => some '\r'
  | 't' => some '\t'
  | _ => none

/-- The tokens read so far, the last one first, and the place reached. -/
structure Reading where
  done : List Token
  place : Place

namespace Reading

/-- Takes a symbol between tokens. -/
def start (done : List Token) : Symbol → Reading
  | none => ⟨.stray :: done, .lost⟩
  | some c =>
    match c with
    | ' ' => ⟨done, .between⟩
    | '\t' => ⟨done, .between⟩
    | '\n' => ⟨done, .between⟩
    | '\r' => ⟨done, .between⟩
    | '[' => ⟨.openArray :: done, .between⟩
    | ']' => ⟨.closeArray :: done, .between⟩
    | '\x7b' => ⟨.openObject :: done, .between⟩
    | '\x7d' => ⟨.closeObject :: done, .between⟩
    | ',' => ⟨.comma :: done, .between⟩
    | ':' => ⟨.colon :: done, .between⟩
    | '"' => ⟨done, .string ⟨some [], none⟩⟩
    | c =>
      if c.isDigit || c == '-' then ⟨done, .numeral [c]⟩
      else if c.isLower then ⟨done, .word [c]⟩
      else ⟨.stray :: done, .lost⟩

/-- Takes a symbol inside a string. -/
def inString (done : List Token) (t : Content) (x : Symbol) : Reading :=
  match x with
  | none => ⟨done, .string (t.put none)⟩
  | some c =>
    if c == '"' then ⟨.string t.text? :: done, .between⟩
    else if c == '\\' then ⟨done, .escape t⟩
    else if c.toNat < 0x20 then ⟨.stray :: done, .lost⟩
    else ⟨done, .string (t.put (some c))⟩

/-- Takes a symbol after a backslash. -/
def inEscape (done : List Token) (t : Content) (x : Symbol) : Reading :=
  if x == some 'u' then ⟨done, .unit t 4 0⟩
  else
    match x.bind escape? with
    | some c => ⟨done, .string (t.put (some c))⟩
    | none => ⟨.stray :: done, .lost⟩

/-- Takes a symbol among the digits of an escape. -/
def inUnit (done : List Token) (t : Content) (missing value : Nat) (x : Symbol) : Reading :=
  match x.bind hexValue? with
  | none => ⟨.stray :: done, .lost⟩
  | some d =>
    if missing ≤ 1 then ⟨done, .string (t.putUnit (value * 16 + d))⟩
    else ⟨done, .unit t (missing - 1) (value * 16 + d)⟩

/-- Takes a symbol. -/
def step (r : Reading) (x : Symbol) : Reading :=
  match r.place with
  | .between => start r.done x
  | .word cs =>
    match x with
    | some c =>
      if c.isLower then ⟨r.done, .word (c :: cs)⟩
      else start (ofWord cs.reverse :: r.done) x
    | none => start (ofWord cs.reverse :: r.done) x
  | .numeral cs =>
    match x with
    | some c =>
      if inNumeral c then ⟨r.done, .numeral (c :: cs)⟩
      else start (ofNumeral cs.reverse :: r.done) x
    | none => start (ofNumeral cs.reverse :: r.done) x
  | .string t => inString r.done t x
  | .escape t => inEscape r.done t x
  | .unit t missing value => inUnit r.done t missing value x
  | .lost => r

/-- The tokens, in order, once the text has ended. -/
def finish (r : Reading) : List Token :=
  match r.place with
  | .between => r.done.reverse
  | .lost => r.done.reverse
  | .word cs => (ofWord cs.reverse :: r.done).reverse
  | .numeral cs => (ofNumeral cs.reverse :: r.done).reverse
  | _ => (.stray :: r.done).reverse

end Reading

end Token

/-- The tokens of a JSON text. -/
def tokens (text : List Symbol) : List Token :=
  (text.foldl Token.Reading.step ⟨[], .between⟩).finish

end HadithService
