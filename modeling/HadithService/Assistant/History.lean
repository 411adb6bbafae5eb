import HadithService.Assistant.Message
import HadithService.Text.Sanitize

/-!
# The history of a conversation

A client sends along what was said before.  `usableHistory` takes what can be used of it: turns
of the user and of the model with some text, of which the last twenty are kept.  Anything else,
instructions above all, is passed over.
-/

namespace HadithService

/-- The greatest number of turns. -/
def historyLimit : Nat := 20

/-- The greatest number of characters of a turn. -/
def turnLimit : Nat := 2000

/-- The role of a turn that a client may send. -/
def turnRole? (name : String) : Option Role :=
  if name == "user" then some .user
  else if name == "assistant" then some .assistant
  else none

/-- The turn that an entry is, if it is a usable one. -/
def turn? (entry : Json) : Option Message := do
  let name ← (entry.get? "role").bind Json.text?
  let role ← turnRole? name
  let text ← (entry.get? "content").bind Json.text?
  let content := Text.sanitize turnLimit text
  if content.isEmpty then none else some ⟨role, content⟩

/-- The usable turns of a history, of which the last ones are kept. -/
def usableHistory (entries : List Json) : List Message :=
  let turns := entries.filterMap turn?
  turns.drop (turns.length - historyLimit)

end HadithService
