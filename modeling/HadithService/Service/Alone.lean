import HadithService.Service.Appeals

/-!
# A client by itself

What a client is answered to its questions in a run of events, and the run that is left when all
other clients are taken out of it.
-/

namespace HadithService.Service

/-- Whether the body of a request gives no name to a conversation. -/
def namesNoSession (r : Http.Request) : Bool :=
  match Input.ofBody Input.Chat.decoder r with
  | .error _ => true
  | .ok input => input.session.isNone

/-- The answer that a request gets in the end, when the model has replied to what it was asked. -/
def settle (model : ModelRequest → ModelReply) (now : Instant) (s : Service) :
    Handling → Http.Response
  | .answered response => response
  | .pending p => (s.resume p (model p.request) now).1

/-- The answer to a question of a client. -/
def chatAnswer? (source : EditionSource) (model : ModelRequest → ModelReply) (s : Service)
    (client : String) (now : Instant) : ServiceEvent → Option Http.Response
  | .request r =>
    if Errand.ofRequest? r = some .chat ∧ Http.clientOf r.headers r.peer = client then
      some (s.settle model now (s.receive source now r).1)
    else none
  | .reply _ _ => none
  | .sweep => none

/-- The answers to the questions of a client in a run of events. -/
def chatAnswers (source : EditionSource) (model : ModelRequest → ModelReply) (s : Service)
    (client : String) : List (Instant × ServiceEvent) → List Http.Response
  | [] => []
  | (now, event) :: rest =>
    (s.chatAnswer? source model client now event).toList
      ++ (s.after source now event).chatAnswers source model client rest

/-- The requests of a client. -/
def requestsOf (client : String) (events : List (Instant × ServiceEvent)) : List Http.Request :=
  events.filterMap fun
    | (_, .request r) => if Http.clientOf r.headers r.peer = client then some r else none
    | (_, .reply _ _) => none
    | (_, .sweep) => none

/-- A run without the requests of other clients and the replies to them. -/
def alone (client : String) (events : List (Instant × ServiceEvent)) :
    List (Instant × ServiceEvent) :=
  events.filter fun
    | (_, .request r) => Http.clientOf r.headers r.peer == client
    | (_, .reply p _) => (requestsOf client events).any fun r => r.id == p.id
    | (_, .sweep) => true

end HadithService.Service
