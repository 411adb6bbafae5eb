import HadithService.Editions.Loading
import HadithService.Search.Query

/-!
# One job after the other

The jobs of an engine are to load an edition and to make a search.  The loads of a job are begun
together and take their steps in any order, each step at its instant, and no other job is begun
before they are all done.
-/

namespace HadithService.Search

/-- A job: to load an edition, or to make a search. -/
inductive Job where
  | load (slug : String)
  | search (q : Query)
deriving DecidableEq, Repr

/-- The editions that are loaded for a job. -/
def Job.slugs : Job → List String
  | .load slug => [slug]
  | .search q => q.plan.slugs

/-- The state in which the loads of a job have been begun, and no others are there. -/
def Job.begun (job : Job) (s : Loading) : Loading :=
  { s with loads := job.slugs.map fun slug => ⟨slug, .begun⟩, calls := [] }

/-- The course that a job takes: the steps of its loads, each at its instant. -/
structure Course where
  job : Job
  steps : List (Instant × Move)

/-- What a job has come to: what was loaded for each edition, and the calls of the source. -/
structure Report where
  outcomes : List (String × Fetched)
  calls : List String

/-- The report in a state in which the loads of a job are done. -/
def Report.of (s : Loading) : Report where
  outcomes := s.loads.filterMap fun l => (Loading.outcome? l).map fun outcome => (l.slug, outcome)
  calls := s.calls

namespace Course

/-- The instants of the steps. -/
def instants (a : Course) : List Instant :=
  a.steps.map Prod.fst

/-- What the source answers. -/
def answers (a : Course) : List Fetched :=
  a.steps.filterMap fun step => step.2.answer?

/-- The state after the steps, if these are steps of the loads and can be taken. -/
def follow (a : Course) (s : Loading) : Option Loading :=
  if a.steps.all fun step => step.2.load?.isSome then (a.job.begun s).run a.steps else none

/-- The state after the steps, if all loads are done then. -/
def finish (a : Course) (s : Loading) : Option Loading :=
  (a.follow s).filter Loading.isSettled

end Course

/-- The instants of courses that come one after the other. -/
def instants (courses : List Course) : List Instant :=
  courses.flatMap Course.instants

/-- The reports of jobs that are done one after the other, and the state after the last one. -/
def finishAll (s : Loading) : List Course → Option (List Report × Loading)
  | [] => some ([], s)
  | a :: rest => do
    let t ← a.finish s
    let (reports, u) ← finishAll t.settled rest
    return (.of t :: reports, u)

end HadithService.Search
