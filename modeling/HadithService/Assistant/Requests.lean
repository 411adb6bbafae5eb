import HadithService.Assistant.Explanation
import HadithService.Assistant.History
import HadithService.Assistant.Prompt

/-!
# What the model is asked

A hadith is put to the model in two ways: to be explained, with an answer that has to be an
explanation, and to be talked about, with an answer that is passed on as it is.
-/

namespace HadithService

/-- Why the assistant has no answer: the model did not reply, or its reply cannot be used. -/
inductive AssistantError where
  | model (e : ModelError)
  | malformed (e : Malformed)
deriving DecidableEq, Repr

/-- How the failure is told. -/
def AssistantError.message : AssistantError → Option String
  | .model e => e.message
  | .malformed e => e.message

namespace Assistant

/-- The greatest number of characters of a hadith that is put to the model. -/
def textLimit : Nat := 5000

/-- The greatest number of characters of a question. -/
def questionLimit : Nat := 1000

/-- The bits of two tenths. -/
def twoTenths : UInt32 := 0x3e4ccccd

/-- The bits of three tenths. -/
def threeTenths : UInt32 := 0x3e99999a

/-- What the model is asked for an explanation of a hadith. -/
def explainRequest (hadith : String) : ModelRequest where
  messages := [⟨.system, Prompt.explainInstructions⟩, ⟨.user, Prompt.explain hadith⟩]
  temperature := twoTenths
  maxTokens := 1200

/-- The explanation that a model replied with. -/
def explanation : ModelReply → Except AssistantError Explanation
  | .error e => .error (.model e)
  | .ok reply =>
    match Explanation.ofReply reply with
    | .error e => .error (.malformed e)
    | .ok explanation => .ok explanation

/-- What the model is asked to answer a question about a hadith. -/
def answerRequest (hadith : String) (history : List Message) (question : String) :
    ModelRequest where
  messages := ⟨.system, Prompt.chat hadith⟩ :: history ++ [⟨.user, question⟩]
  temperature := threeTenths
  maxTokens := 800

/-- The answer that a model replied with. -/
def answer : ModelReply → Except AssistantError String
  | .error e => .error (.model e)
  | .ok reply => .ok reply

end Assistant

end HadithService
