import HadithService.Collection
import HadithService.Editions.Source
import HadithService.Search.Arrangement
import HadithService.Text.Fold
import HadithService.Text.Words

/-!
# Queries

A query has a text, a collection, both or neither.  `Query.plan` says what it asks for: a whole
collection, the hadiths of a collection on a topic, or the hadiths of all great collections on a
topic, which are those in whose text, translation, or title of the book or chapter the topic stands,
all of them folded.  `Plan.answer` is the answer once the editions of the plan have been fetched.  A
collection that was asked for by name has to be there; a search of all of them does without
those that are not.
-/

namespace HadithService.Search

/-- A query. -/
structure Query where
  text : Option String
  collection : Option String
  limit : Option Nat
deriving DecidableEq, Repr

/-- How many results there are at most when the query does not say. -/
def defaultLimit : Nat := 1000

/-- The results of a query, and how many there were before the limit. -/
structure Results where
  hadiths : List Hadith
  total : Nat
deriving DecidableEq, Repr

/-- Why a query has no results: a collection that it asks for could not be fetched. -/
structure Unavailable where
  slug : String
  cause : SourceError
deriving DecidableEq, Repr

namespace Unavailable

/-- How the failure is told. -/
def message (e : Unavailable) : Option String :=
  e.cause.message.map fun cause => "collection " ++ e.slug ++ " is unavailable: " ++ cause

/-- The status of the source's answer, when the failure was one. -/
def status? (e : Unavailable) : Option Nat :=
  e.cause.status?

end Unavailable

/-- Whether a hadith is on a topic, given in folded form.  Every hadith is on the empty topic. -/
def isOn (topic : String) (h : Hadith) : Bool :=
  topic.isEmpty
    || Text.occursIn topic (Text.fold h.arabic)
    || h.english.any (fun english => Text.occursIn topic (Text.fold english))
    || Text.occursIn topic (Text.fold h.bookName)
    || Text.occursIn topic (Text.fold h.chapterName)

/-- What a query asks for.  Topics are folded. -/
inductive Plan where
  | nothing
  | whole (slug : String)
  | within (slug : String) (topic : String)
  | everywhere (topic : String)
deriving DecidableEq, Repr

/-- A field of a query without the blanks around it, unless it is blank. -/
def given (s : Option String) : Option String :=
  (s.bind Text.unlessBlank).map Text.trim

/-- What a query asks for. -/
def Query.plan (q : Query) : Plan :=
  match given q.collection, given q.text with
  | none, none => .nothing
  | some collection, none => .whole (Collection.resolve collection)
  | some collection, some text => .within (Collection.resolve collection) (Text.fold text)
  | none, some text =>
    match Collection.detect text with
    | some slug => .whole slug
    | none => .everywhere (Text.fold text)

/-- The greatest number of results. -/
def Query.cut (q : Query) : Nat :=
  q.limit.getD defaultLimit

/-- The editions that have to be fetched. -/
def Plan.slugs : Plan → List String
  | .nothing => []
  | .whole slug => [slug]
  | .within slug _ => [slug]
  | .everywhere _ => Collection.topicEditions

/-- The hadiths of an edition that was fetched, none if it was not. -/
def fetchedHadiths : Fetched → List Hadith
  | .ok hadiths => hadiths
  | .error _ => []

/-- The hadiths of a named collection that was fetched. -/
def named (slug : String) : List Fetched → Except Unavailable (List Hadith)
  | .ok hadiths :: _ => .ok hadiths
  | .error cause :: _ => .error ⟨slug, cause⟩
  | [] => .error ⟨slug, .request⟩

/-- The hadiths that a plan asks for, given the editions in the order of `Plan.slugs`. -/
def Plan.found (p : Plan) (editions : List Fetched) : Except Unavailable (List Hadith) :=
  match p with
  | .nothing => .ok []
  | .whole slug => named slug editions
  | .within slug topic => (named slug editions).map (List.filter (isOn topic))
  | .everywhere topic => .ok (editions.flatMap fun e => (fetchedHadiths e).filter (isOn topic))

/-- The results of some hadiths under a limit. -/
def results (limit : Nat) (hadiths : List Hadith) : Results :=
  let arranged := arrange hadiths
  ⟨arranged.take limit, arranged.length⟩

/-- The answer to a query, given the editions of its plan; none when it asks for nothing. -/
def Query.answer (q : Query) (editions : List Fetched) : Except Unavailable (Option Results) :=
  match q.plan with
  | .nothing => .ok none
  | p => (p.found editions).map fun hadiths => some (results q.cut hadiths)

/-- The answer to a query when every edition is fetched from a source. -/
def Query.answerFrom (q : Query) (source : String → Fetched) :
    Except Unavailable (Option Results) :=
  q.answer (q.plan.slugs.map source)

end HadithService.Search
