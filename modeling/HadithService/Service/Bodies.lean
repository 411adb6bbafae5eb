import HadithService.Json.Spelling
import HadithService.Service.Appeals

/-!
# What bodies contain

How the text that is to be explained may stand in the body of a request, apart from how it is looked
for: some start of the body is a JSON text, an object with the text as a member or a list of the
text alone, and what comes after it may be anything.  A question stands in a body in the same way,
with its fields as members or as the items of a list.
-/

namespace HadithService.Input

namespace Explain

/-- A draft gives a text: an object with one member of that name, besides other members, or a list
of the text alone. -/
inductive Gives (text : String) : Draft → Prop where
  | object {members : List (String × Draft)}
    (h : Draft.valuesOf members "text" = [.string (some text)]) :
    Gives text (Draft.ofMembers members)
  | list : Gives text (.array [.string (some text)])

/-- The first value in a body gives a text. -/
def Begins (text : String) (body : List UInt8) : Prop :=
  ∃ value rest d, Symbol.ofBytes body = value ++ rest ∧ Draft.Spells value d ∧ Gives text d

/-- The hadith that a request wants explained, if its body is not too long and there is something in
the text that it gives. -/
def Wants (hadith : String) (r : Http.Request) : Prop :=
  r.body.length ≤ bodyLimit ∧ hadith ≠ "" ∧
    ∃ text, Begins text r.body ∧ hadith = Text.sanitize Assistant.textLimit text

end Explain

/-- What the values for a field give that may be null, by what a single one stands for: nothing, if
there is none or it is null. -/
inductive Given {α : Type} (stands : Draft → α → Prop) : List Draft → Option α → Prop where
  | missing : Given stands [] none
  | null : Given stands [.null] none
  | value {d : Draft} {a : α} (hnull : d ≠ .null) (h : stands d a) : Given stands [d] (some a)

namespace Chat

/-- A draft is a text. -/
def IsText (d : Draft) (s : String) : Prop :=
  d = .string (some s)

/-- A draft that stands in a list or an object is a value. -/
def IsValue (d : Draft) (v : Json) : Prop :=
  Draft.hold (Draft.maxLevels - 1) d = some v

/-- A draft gives what a client sends when it asks a question: an object with at most one member for
each field, besides other members, or a list of some of the fields in their order. -/
inductive Gives (input : Chat) : Draft → Prop where
  | object {members : List (String × Draft)}
    (hhadith : Given IsText (Draft.valuesOf members "hadithText") input.hadith)
    (hquestion : Given IsText (Draft.valuesOf members "userQuestion") input.question)
    (hhistory : Given IsValue (Draft.valuesOf members "conversationHistory") input.history)
    (hsession : Given IsText (Draft.valuesOf members "sessionId") input.session) :
    Gives input (Draft.ofMembers members)
  | list {items : List Draft} (hlength : items.length ≤ 4)
    (hhadith : Given IsText items[0]?.toList input.hadith)
    (hquestion : Given IsText items[1]?.toList input.question)
    (hhistory : Given IsValue items[2]?.toList input.history)
    (hsession : Given IsText items[3]?.toList input.session) :
    Gives input (.array items)

/-- The first value in a body gives what a client sends. -/
def Begins (input : Chat) (body : List UInt8) : Prop :=
  ∃ value rest d, Symbol.ofBytes body = value ++ rest ∧ Draft.Spells value d ∧ Gives input d

/-- What a request sends, if its body is not too long. -/
def Sends (input : Chat) (r : Http.Request) : Prop :=
  r.body.length ≤ bodyLimit ∧ Begins input r.body

/-- The entries of the history; none unless it is a list. -/
def entries (input : Chat) : List Json :=
  (input.history.map Json.items).getD []

end Chat

end HadithService.Input
