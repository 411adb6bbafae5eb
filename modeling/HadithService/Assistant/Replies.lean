import HadithService.Assistant.Explanation
import HadithService.Json.Spelling

/-!
# What replies contain

How an explanation may stand in a reply, apart from how it is looked for.  `Unfenced` says what is
left of a reply without the blanks around it and without a code fence, and `Explanation.IsWritten`
which drafts are an explanation: an object with the three fields, or a list of the three values.
`Explanation.IsPresentable` says what is left of one when it has been cut.
-/

namespace HadithService

namespace Explanation

/-- What stands behind an opening fence, before the text inside: all up to the first line break, or
nothing if no line break follows. -/
inductive IsInfo (inside : List Char) : List Char → Prop where
  | line {info : List Char} (h : '\n' ∉ info) : IsInfo inside (info ++ ['\n'])
  | none (h : '\n' ∉ inside) : IsInfo inside []

/-- What is left of a reply without the blanks around it and without a code fence.  A fence that is
opened need not be closed, and one that has not been opened stays. -/
inductive Unfenced (reply : List Char) : List Char → Prop where
  | bare {body : List Char} (h : Text.TrimsTo reply body) (hnot : ¬ fence <+: body) :
    Unfenced reply body
  | opened {info inside body : List Char} (h : Text.TrimsTo reply (fence ++ info ++ inside))
    (hinfo : IsInfo inside info) (hnot : ¬ fence <:+ inside) (hbody : Text.TrimsTo inside body) :
    Unfenced reply body
  | closed {info inside body : List Char}
    (h : Text.TrimsTo reply (fence ++ info ++ (inside ++ fence)))
    (hinfo : IsInfo (inside ++ fence) info) (hbody : Text.TrimsTo inside body) :
    Unfenced reply body

/-- A draft is an explanation: an object with one member for each field, besides other members, or a
list of the three values in their order. -/
inductive IsWritten (e : Explanation) : Draft → Prop where
  | object {members : List (String × Draft)}
    (hsummary : Draft.valuesOf members "summary" = [.string (some e.summary)])
    (hexplanation : Draft.valuesOf members "explanation" = [.string (some e.explanation)])
    (hkeywords : Draft.valuesOf members "keywords" = [Draft.ofTexts e.keywords]) :
    IsWritten e (Draft.ofMembers members)
  | list :
    IsWritten e
      (.array [.string (some e.summary), .string (some e.explanation), Draft.ofTexts e.keywords])

/-- A text is JSON and an explanation. -/
def IsText (e : Explanation) (text : List Char) : Prop :=
  ∃ d, Draft.Spells (text.map some) d ∧ e.IsWritten d

/-- There is something in the summary or in the explanation. -/
def HasContent (e : Explanation) : Prop :=
  e.summary ≠ "" ∨ e.explanation ≠ ""

/-- What every explanation is that a client gets: its texts are cut, it says something, and there
are few keywords, none of them empty. -/
structure IsPresentable (e : Explanation) : Prop where
  summary : e.summary.length ≤ 500
  explanation : e.explanation.length ≤ 5000
  content : e.HasContent
  keywords : e.keywords.length ≤ 10
  keyword : ∀ k ∈ e.keywords, 1 ≤ k.length ∧ k.length ≤ 50
  clean : ∀ s ∈ e.summary :: e.explanation :: e.keywords, '\x00' ∉ s.toList

/-- The keywords that are kept: the first ten in which something is left, each cut. -/
def kept (keywords : List String) : List String :=
  ((keywords.map (Text.sanitize 50)).filter fun k => k ≠ "").take 10

/-- The model has replied, but there is no explanation in what it said. -/
inductive IsUnusable : ModelReply → Prop where
  | invalid (detail : String) : IsUnusable (.error (.invalidResponse detail))
  | malformed {text : String} {e : Malformed} (h : ofReply text = .error e) : IsUnusable (.ok text)

end Explanation

end HadithService
