import HadithService.Service.Events

/-!
# Appeals

A request for the assistant is an appeal when it can be read and nothing is missing.  Appeals are
what the limits are about: every appeal is counted for its client by the limiter of its errand.
-/

namespace HadithService

/-- The errand that a request is for. -/
def Errand.ofRequest? (r : Http.Request) : Option Errand :=
  if r.method == "POST" then
    match Route.ofPath? r.target.path with
    | some .explain => some .explain
    | some .chat => some .chat
    | _ => none
  else none

/-- A hadith that is to be explained to a client, or a question. -/
inductive Appeal where
  | explanation (client hadith : String)
  | question (q : ChatQuestion)

namespace Appeal

/-- What the model is asked for. -/
def errand : Appeal → Errand
  | .explanation _ _ => .explain
  | .question _ => .chat

/-- Who appeals. -/
def client : Appeal → String
  | .explanation client _ => client
  | .question q => q.client

/-- What the model is asked if it is asked at all. -/
def modelRequest : Appeal → ModelRequest
  | .explanation _ hadith => Assistant.explainRequest hadith
  | .question q => Assistant.answerRequest q.hadith (usableHistory q.history) q.text

/-- The hadith that a request wants explained. -/
def explanation? (r : Http.Request) : Option Appeal :=
  match Input.ofBody Input.Explain.decoder r with
  | .error _ => none
  | .ok input =>
    let hadith := Text.sanitize Assistant.textLimit (input.text.getD "")
    if hadith.isEmpty then none else some (.explanation (Http.clientOf r.headers r.peer) hadith)

/-- The appeal that a request is. -/
def ofRequest? (r : Http.Request) : Option Appeal :=
  match Errand.ofRequest? r with
  | none => none
  | some .explain => explanation? r
  | some .chat => (ChatQuestion.ofRequest? r).map .question

end Appeal

namespace Handling

/-- The status of the answer, if there is one at once. -/
def status? : Handling → Option Nat
  | .answered response => some response.status
  | .pending _ => none

/-- What the model is asked for an errand. -/
def askedFor (e : Errand) : Handling → List ModelRequest
  | .answered _ => []
  | .pending p => if p.errand = e then [p.request] else []

end Handling

namespace Service

/-- The limiter of an errand. -/
def limiter (s : Service) : Errand → RateLimiter
  | .explain => s.explainLimiter
  | .chat => s.chatLimiter

/-- How many appeals count for a client at an instant. -/
def used (s : Service) (e : Errand) (client : String) (now : Instant) : Nat :=
  (Counter.current (s.limiter e).counters (s.limiter e).window client now).count

/-- Whether an appeal may go to the model once it has been counted.  A question has to belong to its
conversation, and that must not be closed. -/
def isOpenTo (s : Service) (now : Instant) : Appeal → Bool
  | .explanation _ _ => true
  | .question q => !s.offTopic.isClosed q.session now && q.isRelevant

/-- What the limiter of an errand is told in a run of events. -/
def checks (e : Errand) (events : List (Instant × ServiceEvent)) : List RateLimiter.Event :=
  events.filterMap fun
    | (now, .request r) =>
      ((Appeal.ofRequest? r).filter fun a => a.errand = e).map fun a => .check a.client now
    | (_, .reply _ _) => none
    | (now, .sweep) => some (.prune now)

/-- What the model is asked for an errand of a client in an event. -/
def askedIn (source : EditionSource) (s : Service) (e : Errand) (client : String) (now : Instant) :
    ServiceEvent → List ModelRequest
  | .request r =>
    if Http.clientOf r.headers r.peer = client then (s.receive source now r).1.askedFor e else []
  | .reply _ _ => []
  | .sweep => []

/-- What the model is asked for an errand of a client in a run of events. -/
def asked (source : EditionSource) (s : Service) (e : Errand) (client : String) :
    List (Instant × ServiceEvent) → List ModelRequest
  | [] => []
  | (now, event) :: rest =>
    s.askedIn source e client now event ++ (s.after source now event).asked source e client rest

end Service

end HadithService
