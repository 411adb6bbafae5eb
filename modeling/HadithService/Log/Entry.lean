import HadithService.Json.Basic

/-!
# Log entries

An entry of the log has a level, says which part of the program it is from, and has a message
and perhaps some named values.  It is written as a line of text or as a JSON value.
-/

namespace HadithService.Log

/-- How much an entry matters, from the most to the least. -/
inductive Level where
  | error
  | warn
  | info
  | debug
  | trace
deriving DecidableEq, Repr

/-- The name of a level. -/
def Level.name : Level → String
  | .error => "ERROR"
  | .warn => "WARN"
  | .info => "INFO"
  | .debug => "DEBUG"
  | .trace => "TRACE"

/-- The rank of a level: the more it matters, the lower. -/
def Level.rank : Level → Nat
  | .error => 1
  | .warn => 2
  | .info => 3
  | .debug => 4
  | .trace => 5

/-- An entry. -/
structure Entry where
  level : Level
  target : String
  message : String
  values : List (String × String)
deriving DecidableEq, Repr

namespace Entry

/-- An entry as a line of text. -/
def text (e : Entry) : String :=
  e.level.name ++ " " ++ e.target ++ ": " ++
    String.intercalate " " (e.message :: e.values.map fun v => v.1 ++ "=" ++ v.2)

/-- An entry as a JSON value. -/
def toJson (e : Entry) : Json :=
  .object
    [("level", .string e.level.name),
     ("fields", .object
      (("message", .string e.message) :: e.values.map fun v => (v.1, .string v.2))),
     ("target", .string e.target)]

end Entry

end HadithService.Log
