import HadithService.Json.Draft

/-!
# Decoders

A decoder turns a draft into a value of a type of the domain, or refuses it.  It is also told
how many levels of lists and objects the draft may be deep.

A structure may stand in a text in two ways: as an object, with its fields under their names, or
as a list of its fields in their order.  In an object other names are passed over, but no field
may come twice; in a list there may be no further items.  A field that is missing takes its
default if it has one; a field that has none but may be null can be missing from an object only.
-/

namespace HadithService

/-- A way to read a value of type `α` from a draft of at most so many levels. -/
abbrev Decoder (α : Type) := Nat → Draft → Option α

/-- The fields that a structure was given.  In a list they were given by their places. -/
structure Fields where
  levels : Nat
  isListed : Bool
  given : List (String × Draft)

namespace Decoder

variable {α β : Type}

/-- A text. -/
def text : Decoder String
  | _, .string s => s
  | _, _ => none

/-- A truth value. -/
def bool : Decoder Bool
  | _, .bool b => some b
  | _, _ => none

/-- A number of any kind, as a 64-bit binary fraction. -/
def real : Decoder UInt64
  | _, .number n => n.number?.map Number.toReal
  | _, _ => none

/-- A whole number below a bound, written without fraction and exponent. -/
def below (bound : Nat) : Decoder Nat
  | _, .number n =>
    match n.number? with
    | some (.natural n) => if n < bound then some n else none
    | _ => none
  | _, _ => none

/-- A value that may be null. -/
def nullable (d : Decoder α) : Decoder (Option α)
  | _, .null => some none
  | levels, v => (d levels v).map some

/-- A list. -/
def list (d : Decoder α) : Decoder (List α)
  | levels + 1, .array items => items.mapM (d levels)
  | _, _ => none

/-- An object of values under any names. -/
def table (d : Decoder α) : Decoder (List (String × α))
  | levels + 1, .object members =>
    members.mapM fun (name, v) =>
      match name, d levels v with
      | some name, some a => some (name, a)
      | _, _ => none
  | _, _ => none

/-- A value of which the whole has to be held, read in the first of several ways that succeeds. -/
def firstOf (ways : List (Decoder α)) : Decoder α := fun levels v =>
  match Draft.hold levels v with
  | none => none
  | some _ => ways.findSome? fun d => d levels v

/-- A structure that is written as an object. -/
def object (names : List String) (read : Fields → Option α) : Decoder α
  | levels + 1, .object members =>
    match members.mapM fun m => m.1.map fun name => (name, m.2) with
    | none => none
    | some members =>
      let given := members.filter fun m => names.contains m.1
      if names.any fun name => 1 < given.countP fun m => m.1 == name then none
      else read ⟨levels, false, given⟩
  | _, _ => none

/-- A structure, written as an object or as a list. -/
def structured (names : List String) (read : Fields → Option α) : Decoder α
  | levels + 1, .array items =>
    if items.length ≤ names.length then read ⟨levels, true, names.zip items⟩ else none
  | levels, v => object names read levels v

/-- Reads a draft with the greatest depth that is allowed. -/
def run (d : Decoder α) (v : Draft) : Option α :=
  d Draft.maxLevels v

end Decoder

namespace Fields

variable {α : Type}

/-- What a field was given. -/
def find (f : Fields) (name : String) : Option Draft :=
  (f.given.find? fun m => m.1 == name).map Prod.snd

/-- A field that has to be there. -/
def required (f : Fields) (name : String) (d : Decoder α) : Option α :=
  (f.find name).bind (d f.levels)

/-- A field with a default. -/
def withDefault (f : Fields) (name : String) (d : Decoder α) (default : α) : Option α :=
  match f.find name with
  | none => some default
  | some v => d f.levels v

/-- A field that may be null, and missing anywhere. -/
def optional (f : Fields) (name : String) (d : Decoder α) : Option (Option α) :=
  f.withDefault name d.nullable none

/-- A field that may be null, and missing from an object. -/
def optionalIfNamed (f : Fields) (name : String) (d : Decoder α) : Option (Option α) :=
  match f.find name with
  | none => if f.isListed then none else some none
  | some v => d.nullable f.levels v

end Fields

end HadithService
