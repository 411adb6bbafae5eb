import HadithService.Log.Entry
import HadithService.Text.Alphanumeric
import HadithService.Text.Words

/-!
# Log filters

A filter is a list of rules with commas between them.  A rule names a level, or a part of the
program, or a part and a level; a part alone stands for all levels.  Of the rules for an entry
the one that names the longest part counts, and of several for the same part the last one.  A
rule may also be about a span, in brackets; the entries here are in no span, so it concerns none
of them.
-/

namespace HadithService.Log

/-- A rule: the greatest rank of entries from a part of the program, or from all of it. -/
structure Rule where
  target : Option String
  rank : Nat
deriving DecidableEq, Repr

namespace Rule

/-- The rank that a text names, zero for none at all. -/
def rank? (cs : List Char) : Option Nat :=
  match String.ofList (cs.map Char.toLower) with
  | "off" => some 0
  | "error" => some 1
  | "warn" => some 2
  | "info" => some 3
  | "debug" => some 4
  | "trace" => some 5
  | "0" => some 0
  | "1" => some 1
  | "2" => some 2
  | "3" => some 3
  | "4" => some 4
  | "5" => some 5
  | _ => none

/-- A character of the name of a part. -/
def isTargetChar (c : Char) : Bool :=
  Text.isAlphanumeric c || ['_', ':', '-'].contains c

/-- What follows a span in brackets, if there is one at the start. -/
def afterSpan? : List Char → Option (List Char)
  | '[' :: rest =>
    match rest.dropWhile fun c => c != ']' with
    | [] => none
    | _ :: rest => some rest
  | _ => none

/-- The rank at the end of a rule, which may be left open. -/
def ending? : List Char → Option Nat
  | [] => some 5
  | ['='] => some 5
  | '=' :: cs => rank? cs
  | _ => none

/-- The rule for a part, or none inside if it is about a span. -/
def ofPart? (cs : List Char) : Option (Option Rule) :=
  let target := cs.takeWhile isTargetChar
  let rest := cs.dropWhile isTargetChar
  match target.isEmpty, afterSpan? rest with
  | true, none => none
  | true, some rest => (ending? (rest.dropWhile isTargetChar)).map fun _ => none
  | false, some rest => (ending? rest).map fun _ => none
  | false, none => (ending? rest).map fun rank => some ⟨some (String.ofList target), rank⟩

/-- The rule that a text is, or none inside if it concerns no entry. -/
def read? (cs : List Char) : Option (Option Rule) :=
  match rank? cs with
  | some rank => some (some ⟨none, rank⟩)
  | none => ofPart? cs

/-- Whether a rule is about an entry. -/
def concerns (r : Rule) (e : Entry) : Bool :=
  match r.target with
  | none => true
  | some target => target.toList.isPrefixOf e.target.toList

/-- How narrow a rule is: the length of the part it names, more than zero if it names any. -/
def narrowness (r : Rule) : Nat :=
  match r.target with
  | none => 0
  | some target => target.utf8ByteSize + 1

end Rule

/-- A filter. -/
abbrev Filter := List Rule

namespace Filter

/-- The narrowest of some rules, of several the last one. -/
def narrowest? : List Rule → Option Rule
  | [] => none
  | r :: rest =>
    match narrowest? rest with
    | none => some r
    | some s => if s.narrowness < r.narrowness then some r else some s

/-- Whether a filter lets an entry through. -/
def passes (f : Filter) (e : Entry) : Bool :=
  match narrowest? (f.filter fun r => r.concerns e) with
  | none => false
  | some r => e.level.rank ≤ r.rank

/-- The filter that lets through whatever matters at least as much as news. -/
def usual : Filter :=
  [⟨none, Level.info.rank⟩]

/-- The filter with no rules given lets errors through. -/
def orErrors (isEmpty : Bool) (f : Filter) : Filter :=
  if isEmpty then [⟨none, Level.error.rank⟩] else f

/-- The filter that a text is, if all of its rules can be read. -/
def read? (s : String) : Option Filter :=
  ((Text.words (· == ',') s.toList).mapM Rule.read?).map fun rules =>
    orErrors rules.isEmpty (rules.filterMap fun r => r)

/-- The filter that a variable of the environment is set to, or the usual one. -/
def ofVariable (value : Option String) : Filter :=
  (value.bind read?).getD usual

end Filter

end HadithService.Log
