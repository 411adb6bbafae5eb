import HadithService.Json.Token

/-!
# JSON texts as they are read

A draft is the tree of a JSON text before anybody has said which parts of it are wanted.
`Draft.leading?` reads the value that a text starts with, `Draft.whole?` a text that is a value
and nothing else.  Only parts that are wanted are held: `Draft.hold` gives the value of a draft,
if every number and string in it is one and it is not nested deeper than the given number of
levels.  Parts that are not wanted may be nested to any depth and contain anything that is sound
on the page.
-/

namespace HadithService

/-- The tree of a JSON text.  A string that is no text is `none`. -/
abbrev Draft := Tree Numeral (Option String)

namespace Draft

/-- A list or an object that has been opened: what is in it so far, the last part first, and for
an object perhaps the name of the next member. -/
inductive Frame where
  | items (done : List Draft)
  | members (done : List (Option String × Draft))
  | named (done : List (Option String × Draft)) (name : Option String)

/-- What may come next: a value, an item or the end of an empty list, a name or the end of an
empty object, a name, the colon after a name, or what follows a complete part. -/
inductive Want where
  | value
  | itemOrEnd
  | nameOrEnd
  | name
  | colon (name : Option String)
  | separator
deriving DecidableEq

/-- What a token leads to. -/
inductive Progress where
  | going (stack : List Frame) (want : Want)
  | complete (v : Draft)
  | failed

/-- Puts a complete value where it belongs. -/
def deliver (v : Draft) : List Frame → Progress
  | [] => .complete v
  | .items done :: stack => .going (.items (v :: done) :: stack) .separator
  | .named done name :: stack => .going (.members ((name, v) :: done) :: stack) .separator
  | .members _ :: _ => .failed

/-- Takes a token where a value is due. -/
def beginValue (stack : List Frame) : Token → Progress
  | .openArray => .going (.items [] :: stack) .itemOrEnd
  | .openObject => .going (.members [] :: stack) .nameOrEnd
  | .null => deliver .null stack
  | .bool b => deliver (.bool b) stack
  | .number n => deliver (.number n) stack
  | .string s => deliver (.string s) stack
  | _ => .failed

/-- Takes a token after a complete part of the innermost list or object. -/
def afterPart : List Frame → Token → Progress
  | .items done :: stack, .comma => .going (.items done :: stack) .value
  | .items done :: stack, .closeArray => deliver (.array done.reverse) stack
  | .members done :: stack, .comma => .going (.members done :: stack) .name
  | .members done :: stack, .closeObject => deliver (.object done.reverse) stack
  | _, _ => .failed

/-- Takes a token. -/
def step (stack : List Frame) (want : Want) (t : Token) : Progress :=
  match want, t with
  | .value, t => beginValue stack t
  | .itemOrEnd, .closeArray => afterPart stack .closeArray
  | .itemOrEnd, t => beginValue stack t
  | .nameOrEnd, .closeObject => afterPart stack .closeObject
  | .nameOrEnd, .string s => .going stack (.colon s)
  | .nameOrEnd, _ => .failed
  | .name, .string s => .going stack (.colon s)
  | .name, _ => .failed
  | .colon s, .colon =>
    match stack with
    | .members done :: stack => .going (.named done s :: stack) .value
    | _ => .failed
  | .colon _, _ => .failed
  | .separator, t => afterPart stack t

/-- The first complete value, and the tokens after it. -/
def run (stack : List Frame) (want : Want) : List Token → Option (Draft × List Token)
  | [] => none
  | t :: rest =>
    match step stack want t with
    | .going stack want => run stack want rest
    | .complete v => some (v, rest)
    | .failed => none

/-- The value at the start of a text, whatever follows it. -/
def leading? (text : List Symbol) : Option Draft :=
  (run [] .value (tokens text)).map Prod.fst

/-- The value that a text is, nothing but blanks around it. -/
def whole? (text : List Symbol) : Option Draft :=
  match run [] .value (tokens text) with
  | some (v, []) => some v
  | _ => none

mutual

/-- The value of a draft that is at most `levels` lists and objects deep. -/
def hold : Nat → Draft → Option Json
  | _, .null => some .null
  | _, .bool b => some (.bool b)
  | _, .number n => n.number?.map Tree.number
  | _, .string s => s.map Tree.string
  | levels, .array items =>
    match levels with
    | 0 => none
    | levels + 1 => (holdItems levels [] items).map Tree.array
  | levels, .object members =>
    match levels with
    | 0 => none
    | levels + 1 => (holdMembers levels [] members).map Tree.object
termination_by structural _ d => d

/-- The values of drafts, after those of the drafts before them. -/
def holdItems : Nat → List Json → List Draft → Option (List Json)
  | _, done, [] => some done.reverse
  | levels, done, d :: rest =>
    match hold levels d with
    | none => none
    | some v => holdItems levels (v :: done) rest
termination_by structural _ _ ds => ds

/-- The values of members, after those of the members before them. -/
def holdMembers : Nat → List (String × Json) → List (Option String × Draft) →
    Option (List (String × Json))
  | _, done, [] => some done.reverse
  | levels, done, (name, d) :: rest =>
    match name, hold levels d with
    | some name, some v => holdMembers levels ((name, v) :: done) rest
    | _, _ => none
termination_by structural _ _ ms => ms

end

/-- How many lists and objects a value may be deep. -/
def maxLevels : Nat := 127

end Draft

/-- The value that a text is. -/
def Json.read? (text : List Symbol) : Option Json :=
  (Draft.whole? text).bind (Draft.hold Draft.maxLevels)

end HadithService
