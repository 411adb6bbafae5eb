import HadithService.Service.Answering

/-!
# Runs of the service

While it runs the service receives requests, goes on with requests for which the model has
replied, and makes sweeps.  Of the requests it receives some are questions that it hears: they
can be read, nothing is missing, and their client has not called too often.
-/

namespace HadithService

/-- What can happen to the service. -/
inductive ServiceEvent where
  | request (r : Http.Request)
  | reply (p : Pending) (reply : ModelReply)
  | sweep

/-- A question in a conversation about a hadith, and who asks it. -/
structure ChatQuestion where
  client : String
  session : String
  hadith : String
  text : String
  history : List Json

namespace ChatQuestion

/-- Whether a question belongs to its conversation. -/
def isRelevant (q : ChatQuestion) : Bool :=
  Relevance.isRelevant q.text q.hadith

/-- The question that a request is. -/
def ofRequest? (r : Http.Request) : Option ChatQuestion :=
  if r.method == "POST" && Route.ofPath? r.target.path == some .chat then
    match Input.ofBody Input.Chat.decoder r with
    | .error _ => none
    | .ok input =>
      let hadith := Text.sanitize Assistant.textLimit (input.hadith.getD "")
      let text := Text.sanitize Assistant.questionLimit (input.question.getD "")
      let client := Http.clientOf r.headers r.peer
      if hadith.isEmpty || text.isEmpty then none
      else
        some ⟨client, Chat.sessionOf input.session client, hadith, text,
          (input.history.map Json.items).getD []⟩
  else none

end ChatQuestion

namespace Service

/-- The question that is heard when a request comes at an instant. -/
def hears? (now : Instant) (r : Http.Request) (s : Service) : Option ChatQuestion :=
  (ChatQuestion.ofRequest? r).filter fun q => (s.chatLimiter.check q.client now).1

/-- The service after an event. -/
def after (source : EditionSource) (s : Service) (now : Instant) : ServiceEvent → Service
  | .request r => (s.receive source now r).2.2
  | .reply p reply => (s.resume p reply now).2
  | .sweep => (s.prune now).2

/-- The service after a run of events, each with its instant. -/
def run (source : EditionSource) (s : Service) : List (Instant × ServiceEvent) → Service
  | [] => s
  | (now, e) :: rest => (s.after source now e).run source rest

/-- The question that is heard in an event. -/
def heard? (s : Service) (now : Instant) : ServiceEvent → Option ChatQuestion
  | .request r => s.hears? now r
  | .reply _ _ => none
  | .sweep => none

/-- The questions that are heard in a run of events. -/
def questions (source : EditionSource) (s : Service) :
    List (Instant × ServiceEvent) → List (Instant × ChatQuestion)
  | [] => []
  | (now, e) :: rest =>
    (s.heard? now e).toList.map ((now, ·)) ++ (s.after source now e).questions source rest

end Service

end HadithService
