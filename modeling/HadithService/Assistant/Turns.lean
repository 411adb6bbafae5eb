import HadithService.Assistant.History

/-!
# Turns of a history

Which entries of a history are turns, apart from how they are looked for.  An entry is a turn when
it is an object whose role is that of the user or of the model and whose content is a text of which
something is left when it is sanitized; `Turns` passes over all other entries.  `Alike` says which
changes to a history leave the turns that are kept.
-/

namespace HadithService

/-- What an object has under a name: the last of its members with the name. -/
def Json.Has (entry : Json) (name : String) (v : Json) : Prop :=
  ∃ before after, entry = .object (before ++ (name, v) :: after) ∧ ∀ m ∈ after, m.1 ≠ name

/-- An entry of a history is a turn of the user or of the model. -/
inductive IsTurn (entry : Json) : Message → Prop where
  | user {text : String} (hrole : entry.Has "role" (.string "user"))
    (hcontent : entry.Has "content" (.string text)) (hfull : Text.sanitize 2000 text ≠ "") :
    IsTurn entry ⟨.user, Text.sanitize 2000 text⟩
  | assistant {text : String} (hrole : entry.Has "role" (.string "assistant"))
    (hcontent : entry.Has "content" (.string text)) (hfull : Text.sanitize 2000 text ≠ "") :
    IsTurn entry ⟨.assistant, Text.sanitize 2000 text⟩

/-- An entry of a history is no turn. -/
def IsNoTurn (entry : Json) : Prop :=
  ∀ m, ¬ IsTurn entry m

/-- The turns of a history in their order. -/
inductive Turns : List Json → List Message → Prop where
  | nil : Turns [] []
  | turn {entry : Json} {m : Message} {entries : List Json} {turns : List Message}
    (h : IsTurn entry m) (hrest : Turns entries turns) : Turns (entry :: entries) (m :: turns)
  | passed {entry : Json} {entries : List Json} {turns : List Message} (h : IsNoTurn entry)
    (hrest : Turns entries turns) : Turns (entry :: entries) turns

/-- The second history is the first one with entries between its own that are no turns. -/
inductive Interspersed : List Json → List Json → Prop where
  | nil : Interspersed [] []
  | keep {entries entries' : List Json} (entry : Json) (hrest : Interspersed entries entries') :
    Interspersed (entry :: entries) (entry :: entries')
  | insert {entry : Json} {entries entries' : List Json} (h : IsNoTurn entry)
    (hrest : Interspersed entries entries') : Interspersed entries (entry :: entries')

/-- The second history is the first one with entries that are no turns in it, or with anything in
front of twenty turns. -/
inductive Alike (entries : List Json) : List Json → Prop where
  | interspersed {entries' : List Json} (h : Interspersed entries entries') : Alike entries entries'
  | older {turns : List Message} (h : Turns entries turns) (henough : 20 ≤ turns.length)
    (older : List Json) : Alike entries (older ++ entries)

end HadithService
