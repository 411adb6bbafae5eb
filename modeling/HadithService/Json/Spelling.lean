import HadithService.Json.Draft

/-!
# How drafts are spelled

A draft is spelled by its tokens: brackets around the items of a list and the members of an object,
commas between them, and in a member a colon between the name and the value.  A text spells a draft
when its tokens are those of the draft and no others, whatever blanks stand between them.
-/

namespace HadithService.Draft

mutual

/-- The tokens of a draft. -/
def spelled : Draft → List Token
  | .null => [.null]
  | .bool b => [.bool b]
  | .number n => [.number n]
  | .string s => [.string s]
  | .array items => .openArray :: spelledItems items ++ [.closeArray]
  | .object members => .openObject :: spelledMembers members ++ [.closeObject]
termination_by structural d => d

/-- The tokens of the items of a list, with commas between them. -/
def spelledItems : List Draft → List Token
  | [] => []
  | d :: rest => spelled d ++ (if rest.isEmpty then [] else [.comma]) ++ spelledItems rest
termination_by structural ds => ds

/-- The tokens of the members of an object, with commas between them. -/
def spelledMembers : List (Option String × Draft) → List Token
  | [] => []
  | (name, d) :: rest =>
    .string name :: .colon :: spelled d ++ (if rest.isEmpty then [] else [.comma])
      ++ spelledMembers rest
termination_by structural ms => ms

end

/-- A text is a draft, with nothing but blanks around it. -/
def Spells (text : List Symbol) (d : Draft) : Prop :=
  tokens text = d.spelled

/-- A list of texts. -/
def ofTexts (texts : List String) : Draft :=
  .array (texts.map fun s => .string (some s))

/-- An object whose members have these names. -/
def ofMembers (members : List (String × Draft)) : Draft :=
  .object (members.map fun m => (some m.1, m.2))

/-- What the members with a name are. -/
def valuesOf (members : List (String × Draft)) (name : String) : List Draft :=
  (members.filter fun m => m.1 == name).map Prod.snd

end HadithService.Draft
