import HadithService.Decimal.Shortest

/-!
# JSON values

A JSON text is a tree whose leaves are nulls, truth values, numbers and strings.  `Tree` leaves
open what a number and a string are: in a value (`Json`) they are what they stand for, in a text
that has only been read they may still be something that no value has.  `Json.render` writes a
value without any blanks, members in their order.
-/

namespace HadithService

/-- The shape of a JSON text, over the numbers `ν` and the strings `σ`. -/
inductive Tree (ν σ : Type) where
  | null
  | bool (b : Bool)
  | number (n : ν)
  | string (s : σ)
  | array (items : List (Tree ν σ))
  | object (members : List (σ × Tree ν σ))

/-- A number as it is held: a whole number of 64 bits without a sign, a negative whole number of
64 bits, or the pattern of a finite 64-bit binary fraction. -/
inductive Number where
  | natural (n : Nat)
  | negative (n : Nat)
  | real (bits : UInt64)
deriving DecidableEq, Repr

/-- A JSON value. -/
abbrev Json := Tree Number String

namespace Json

/-- A whole number. -/
def ofNat (n : Nat) : Json :=
  Tree.number (.natural n)

/-- A text or, when there is none, a null. -/
def ofText? : Option String → Json
  | none => Tree.null
  | some s => Tree.string s

/-- A list of texts. -/
def ofTexts (texts : List String) : Json :=
  Tree.array (texts.map Tree.string)

/-- A member for a value that may be missing: no member when it is. -/
def memberIf {α : Type} (name : String) (f : α → Json) : Option α → List (String × Json)
  | none => []
  | some a => [(name, f a)]

/-- The value of the last member with a name, if this is an object with one. -/
def get? (name : String) : Json → Option Json
  | .object members => (members.reverse.find? fun m => m.1 == name).map Prod.snd
  | _ => none

/-- The text that this is, if it is one. -/
def text? : Json → Option String
  | .string s => some s
  | _ => none

/-- The items of a list; no items for anything else. -/
def items : Json → List Json
  | .array items => items
  | _ => []

end Json

/-- The characters of a number. -/
def Number.render : Number → List Char
  | .natural n => Decimal.digits n
  | .negative n => '-' :: Decimal.digits n
  | .real bits => (Decimal.scientific bits).toList

/-- A hexadecimal digit, in lower case. -/
def hexDigit (n : Nat) : Char :=
  Nat.digitChar (n % 16)

/-- How a character stands in a string. -/
def escapedChar (c : Char) : List Char :=
  match c with
  | '"' => ['\\', '"']
  | '\\' => ['\\', '\\']
  | '\x08' => ['\\', 'b']
  | '\x0c' => ['\\', 'f']
  | '\n' => ['\\', 'n']
  | '\r' => ['\\', 'r']
  | '\t' => ['\\', 't']
  | c =>
    if c.toNat < 0x20 then ['\\', 'u', '0', '0', hexDigit (c.toNat / 16), hexDigit c.toNat]
    else [c]

/-- The characters of a string with its quotation marks. -/
def renderString (s : String) : List Char :=
  '"' :: s.toList.flatMap escapedChar ++ ['"']

namespace Json

mutual

/-- The characters of a value. -/
def renderChars : Json → List Char
  | .null => ['n', 'u', 'l', 'l']
  | .bool true => ['t', 'r', 'u', 'e']
  | .bool false => ['f', 'a', 'l', 's', 'e']
  | .number n => n.render
  | .string s => renderString s
  | .array items => '[' :: renderItems items ++ [']']
  | .object members => '\x7b' :: renderMembers members ++ ['\x7d']
termination_by structural v => v

/-- The characters of the items of a list, with commas between them. -/
def renderItems : List Json → List Char
  | [] => []
  | v :: rest => renderChars v ++ (if rest.isEmpty then [] else [',']) ++ renderItems rest
termination_by structural vs => vs

/-- The characters of the members of an object, with commas between them. -/
def renderMembers : List (String × Json) → List Char
  | [] => []
  | (name, v) :: rest =>
    renderString name ++ ':' :: renderChars v ++ (if rest.isEmpty then [] else [','])
      ++ renderMembers rest
termination_by structural ms => ms

end

/-- The text of a value. -/
def render (v : Json) : String :=
  String.ofList v.renderChars

end Json

end HadithService
