import HadithService.Service.Appeals

/-!
# What has been handled

Searches, requests for explanations and questions are handled; every other request is answered
without being counted.  A run is told here as a list of occasions, each of which may find another
source, and of a run it is said which requests were handled, what they were answered, which of them
had to wait for the model and which conversations were closed.
-/

namespace HadithService

/-- The endpoint that handles a request, if one does.  A search that cannot be read is refused before
it gets there. -/
def Endpoint.ofRequest? (r : Http.Request) : Option Endpoint :=
  match Errand.ofRequest? r with
  | some e => some e.endpoint
  | none =>
    if Route.ofPath? r.target.path == some .search && Route.search.methods.contains r.method then
      match Input.search r.target.query with
      | .error _ => none
      | .ok _ => some .search
    else none

/-- The time that the requests for an endpoint took. -/
def Metrics.timing (m : Metrics) : Endpoint → Timing
  | .search => m.search
  | .explain => m.explain
  | .chat => m.chat

/-- Something that happens to the service at an instant, and what the source has then. -/
structure Occasion where
  source : EditionSource
  now : Instant
  event : ServiceEvent

namespace Occasion

/-- The endpoint that handles what happens, if it is a request for one. -/
def endpoint? (o : Occasion) : Option Endpoint :=
  match o.event with
  | .request r => Endpoint.ofRequest? r
  | .reply _ _ => none
  | .sweep => none

/-- The request for which the model replies. -/
def replied? (o : Occasion) : Option Pending :=
  match o.event with
  | .request _ => none
  | .reply p _ => some p
  | .sweep => none

end Occasion

namespace Service

/-- The service after an occasion. -/
def meet (s : Service) (o : Occasion) : Service :=
  s.after o.source o.now o.event

/-- The service after some occasions. -/
def through (s : Service) : List Occasion → Service
  | [] => s
  | o :: rest => (s.meet o).through rest

/-- What is gathered on some occasions, each of which the service meets as the ones before it have
left it. -/
def gather {α : Type} (f : Service → Occasion → List α) (s : Service) : List Occasion → List α
  | [] => []
  | o :: rest => f s o ++ (s.meet o).gather f rest

/-- The answer that is given on an occasion to a request that is handled, and its endpoint. -/
def answersIn (s : Service) (o : Occasion) : List (Endpoint × Http.Response) :=
  match o.event with
  | .request r =>
    match Endpoint.ofRequest? r, (s.receive o.source o.now r).1 with
    | some e, .answered response => [(e, response)]
    | _, _ => []
  | .reply p reply => [(p.errand.endpoint, (s.resume p reply o.now).1)]
  | .sweep => []

/-- The request that has to wait for the model from an occasion on. -/
def waitingFrom (s : Service) (o : Occasion) : List Pending :=
  match o.event with
  | .request r =>
    match (s.receive o.source o.now r).1 with
    | .answered _ => []
    | .pending p => [p]
  | .reply _ _ => []
  | .sweep => []

/-- The conversation that a question closes: it was open before the question was heard, and is closed
after it. -/
def closedIn (s : Service) (o : Occasion) : List String :=
  match s.heard? o.now o.event with
  | none => []
  | some q =>
    if !s.offTopic.isClosed q.session o.now && (s.meet o).offTopic.isClosed q.session o.now then
      [q.session]
    else []

/-- No request is in progress after some occasions: the model has replied for those that had to wait
for it, and for no others. -/
def IsQuiet (s : Service) (occasions : List Occasion) : Prop :=
  (s.gather waitingFrom occasions).Perm (occasions.filterMap Occasion.replied?)

end Service

end HadithService
