import HadithService.Edition

/-!
# The source of editions

A source has an edition under an identifier or a reason why it cannot be fetched.  An edition that
is fetched is turned into hadiths.  The wording of a failure of the transport, and of a document that
is no JSON text, is not ours and is left open.
-/

namespace HadithService

/-- Why an edition could not be fetched. -/
inductive SourceError where
  | request
  | status (code : Nat)
  | format (detail : Option String)
deriving DecidableEq, Repr

namespace SourceError

/-- How the failure is told. -/
def message : SourceError → Option String
  | .request => none
  | .status code => some ("hadith API returned status " ++ toString code)
  | .format detail => detail.map ("unexpected hadith API response format: " ++ ·)

/-- The status of the source's answer, when the failure was one. -/
def status? : SourceError → Option Nat
  | .status code => some code
  | _ => none

end SourceError

/-- The outcome of fetching an edition and turning it into hadiths. -/
abbrev Fetched := Except SourceError (List Hadith)

/-- The outcome of reading a document that was published under an identifier. -/
def Fetched.ofDocument (slug : String) (document : List Symbol) : Fetched :=
  match Edition.read? document with
  | some e => .ok (e.hadiths slug)
  | none => .error (.format none)

/-- An answer of a source: for how many rounds it is awaited, and what it is. -/
structure SourceReply where
  rounds : Nat
  outcome : Fetched

/-- What answers the calls for editions. -/
abbrev EditionSource := String → SourceReply

/-- What a source has under an identifier. -/
def EditionSource.edition (source : EditionSource) (slug : String) : Fetched :=
  (source slug).outcome

/-- What is published under an identifier: an edition, or why there is none. -/
abbrev Publication := Except SourceError Edition

/-- What is got when something published under an identifier is fetched. -/
def Fetched.ofPublication (slug : String) (p : Publication) : Fetched :=
  p.map fun e => e.hadiths slug

/-- The source of publications.  A call for an edition is awaited for some rounds. -/
def EditionSource.ofPublications (published : String → Publication) (rounds : String → Nat) :
    EditionSource :=
  fun slug => ⟨rounds slug, .ofPublication slug (published slug)⟩

/-- The source of publications that answers every call at once. -/
def EditionSource.atOnce (published : String → Publication) : EditionSource :=
  .ofPublications published fun _ => 0

end HadithService
