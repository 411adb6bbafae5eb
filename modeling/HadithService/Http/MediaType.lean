/-!
# Media types

The type of a body is a type and a subtype with a slash between them, perhaps with an ending
after a plus sign, and a list of parameters.  `isJson` tells the types of JSON texts: those of
`application` whose subtype or whose ending is `json`, in any case.
-/

namespace HadithService.Http.MediaType

/-- A character of a name. -/
def isTokenChar (c : Char) : Bool :=
  c.isAlphanum || ("!#$%&'*+-.^_`|~".toList).contains c

/-- A character that may stand in quotation marks. -/
def isQuotable (c : Char) : Bool :=
  c.toNat > 31 && c.toNat != 127

/-- Where the reading of parameters stands: before a name, in a name that has begun, at the start
of a value, in a value, at the start of a quoted value, in one, or after one. -/
inductive Place where
  | beforeName
  | name
  | valueStart
  | value
  | quotedStart
  | quoted
  | afterQuoted
deriving DecidableEq, Repr

/-- The place after a character, if it may stand there. -/
def Place.step (p : Place) (c : Char) : Option Place :=
  match p with
  | .beforeName => if c == ' ' then some .beforeName else if isTokenChar c then some .name else none
  | .name => if c == '=' then some .valueStart else if isTokenChar c then some .name else none
  | .valueStart =>
    if c == '"' then some .quotedStart else if isTokenChar c then some .value else none
  | .value => if c == ';' then some .beforeName else if isTokenChar c then some .value else none
  | .quotedStart => if isQuotable c then some .quoted else none
  | .quoted =>
    if c == '"' then some .afterQuoted else if isQuotable c then some .quoted else none
  | .afterQuoted =>
    if c == ';' then some .beforeName else if c == ' ' then some .afterQuoted else none

/-- Whether parameters may end at a place. -/
def Place.isEnd : Place → Bool
  | .beforeName => true
  | .valueStart => true
  | .value => true
  | .afterQuoted => true
  | _ => false

/-- Whether a text is a list of parameters. -/
def areParameters (cs : List Char) : Bool :=
  match cs.foldlM Place.step Place.beforeName with
  | some p => p.isEnd
  | none => false

/-- The place of the last plus sign that is not at the start, if there is one. -/
def lastPlus (cs : List Char) : Option Nat :=
  let after := cs.reverse.takeWhile fun c => c != '+'
  if after.length + 1 < cs.length then some (cs.length - after.length - 1) else none

/-- A media type without its parameters: its type, its subtype and its ending, in lower case. -/
structure Essence where
  main : List Char
  sub : List Char
  ending : Option (List Char)
deriving DecidableEq, Repr

/-- The media type that a text is. -/
def read? (s : String) : Option Essence :=
  let cs := s.toList
  let main := cs.takeWhile fun c => c != '/'
  let rest := (cs.dropWhile fun c => c != '/')
  match rest with
  | [] => none
  | _ :: rest =>
    let sub := rest.takeWhile fun c => c != ';'
    let parameters := (rest.dropWhile fun c => c != ';').drop 1
    if main.isEmpty || !main.all isTokenChar || !sub.all isTokenChar then none
    else if sub.isEmpty && rest.head? == some ';' then none
    else if !areParameters parameters then none
    else
      let lower := List.map Char.toLower
      match lastPlus sub with
      | none => some ⟨lower main, lower sub, none⟩
      | some i => some ⟨lower main, lower (sub.take i), some (lower (sub.drop (i + 1)))⟩

/-- Whether a media type is one of JSON texts. -/
def isJson (s : String) : Bool :=
  let json := "json".toList
  match read? s with
  | none => false
  | some m => m.main == "application".toList && (m.sub == json || m.ending == some json)

end HadithService.Http.MediaType
