import HadithService.Assistant.Message
import HadithService.Text.Sanitize

/-!
# Explanations

The model is asked for a JSON object with a summary, an explanation and keywords.
`Explanation.ofReply` reads its reply, which may stand in a code fence, and takes nothing on
trust: every text is sanitized and cut, keywords that are empty are left out, and a reply with
neither a summary nor an explanation is refused.
-/

namespace HadithService

/-- An explanation of a hadith. -/
structure Explanation where
  summary : String
  explanation : String
  keywords : List String
deriving DecidableEq, Repr

/-- Why a reply is no explanation. -/
inductive Malformed where
  | emptyReply
  | unreadable
  | noContent
deriving DecidableEq, Repr

/-- How the failure is told.  The wording for a reply that is no JSON text is not ours. -/
def Malformed.message : Malformed → Option String
  | .emptyReply => some "malformed model response: empty reply"
  | .unreadable => none
  | .noContent => some "malformed model response: summary and explanation are both empty"

namespace Explanation

/-- The greatest number of characters of a summary. -/
def summaryLimit : Nat := 500

/-- The greatest number of characters of an explanation. -/
def explanationLimit : Nat := 5000

/-- The greatest number of characters of a keyword. -/
def keywordLimit : Nat := 50

/-- The greatest number of keywords. -/
def keywordCount : Nat := 10

/-- The three backticks that begin and end a code fence. -/
def fence : List Char :=
  "```".toList

/-- The characters after a fence, if there is one at the start. -/
def afterFence? (cs : List Char) : Option (List Char) :=
  if fence.isPrefixOf cs then some (cs.drop fence.length) else none

/-- The characters without a fence at the end, if there is one. -/
def beforeFence? (cs : List Char) : Option (List Char) :=
  if fence.isSuffixOf cs then some (cs.take (cs.length - fence.length)) else none

/-- The characters after the first line break, if there is one. -/
def afterLine? (cs : List Char) : Option (List Char) :=
  match cs.dropWhile fun c => c != '\n' with
  | [] => none
  | _ :: rest => some rest

/-- The characters of a reply without blanks around them and without a code fence. -/
def unfence (reply : List Char) : List Char :=
  let trimmed := Text.trimChars reply
  match afterFence? trimmed with
  | none => trimmed
  | some rest =>
    let body := (afterLine? rest).getD rest
    Text.trimChars ((beforeFence? (Text.trimEnd body)).getD body)

/-- Reads an explanation as the model writes it. -/
def decoder : Decoder Explanation :=
  Decoder.structured ["summary", "explanation", "keywords"] fun f => do
    let summary ← f.required "summary" Decoder.text
    let explanation ← f.required "explanation" Decoder.text
    let keywords ← f.required "keywords" (Decoder.list Decoder.text)
    return ⟨summary, explanation, keywords⟩

/-- An explanation with its texts sanitized and cut. -/
def sanitized (e : Explanation) : Explanation where
  summary := Text.sanitize summaryLimit e.summary
  explanation := Text.sanitize explanationLimit e.explanation
  keywords :=
    ((e.keywords.map (Text.sanitize keywordLimit)).filter fun k => !k.isEmpty).take keywordCount

/-- The explanation that a reply is. -/
def ofReply (reply : String) : Except Malformed Explanation :=
  let body := unfence reply.toList
  if body.isEmpty then .error .emptyReply
  else
    match (Draft.whole? (body.map some)).bind decoder.run with
    | none => .error .unreadable
    | some e =>
      let e := e.sanitized
      if e.summary.isEmpty && e.explanation.isEmpty then .error .noContent else .ok e

/-- An explanation as a JSON value. -/
def toJson (e : Explanation) : Json :=
  .object [("summary", .string e.summary), ("explanation", .string e.explanation),
    ("keywords", Json.ofTexts e.keywords)]

end Explanation

end HadithService
