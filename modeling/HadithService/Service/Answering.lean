import HadithService.Http.Sharing
import HadithService.Service.Chatting
import HadithService.Service.Route
import HadithService.Service.Searching

/-!
# Answering requests

`Service.receive` takes a request and either answers it or, when it has passed all the checks of
a request for the assistant, leaves it pending with what the model is to be asked.
`Service.resume` answers a pending request once the model has replied.  So the model is asked at
most once for a request, and requests may be received while others are pending.
-/

namespace HadithService

/-- What the model is asked for. -/
inductive Errand where
  | explain
  | chat
deriving DecidableEq, Repr

/-- The kind of request that an errand is done for. -/
def Errand.endpoint : Errand → Endpoint
  | .explain => .explain
  | .chat => .chat

/-- A request that waits for the model: the identifier of the request, when it came, and what
the model is asked. -/
structure Pending where
  id : String
  errand : Errand
  since : Instant
  request : ModelRequest

/-- What becomes of a request. -/
inductive Handling where
  | answered (response : Http.Response)
  | pending (p : Pending)

namespace Service

/-- Whose pages may see the answers. -/
def sharing (s : Service) : Http.Sharing :=
  .ofBase s.settings.server.publicBase

/-- An answer as it is sent, with the headers that every answer has. -/
def dressed (s : Service) (id : String) (r : Http.Response) : Http.Response :=
  r.withHeaders (s.sharing.headers ++ [⟨"x-request-id", id⟩])

/-- The header that names the methods of a route. -/
def allowHeader (route : Route) : Http.Header :=
  ⟨"allow", route.allowed⟩

/-- The answer to a question about which requests may be made. -/
def permission (route : Option Route) : Http.Response :=
  .bare 200 (Http.Sharing.permissions ++ (route.map allowHeader).toList)

/-- The answer to a question about the state of the service. -/
def health (s : Service) : Http.Response :=
  .ofJson 200 (.object [("status", .string "ok"), ("aiConfigured", .bool s.isConfigured)])

/-- The answer to a question for the counts. -/
def counts (s : Service) : Http.Response :=
  .ofJson 200 (s.metrics.snapshot s.store.cache.stats)

/-- Goes on with a request for the assistant according to the verdict on it. -/
def follow (errand : Errand) (now : Instant) (r : Http.Request) :
    Verdict × Service → Handling × Service
  | (.answered response, s) =>
    (.answered response, s.conclude errand.endpoint r.arrival now response)
  | (.asking request, s) => (.pending ⟨r.id, errand, r.arrival, request⟩, s)

/-- Takes a request for a route. -/
def handle (source : EditionSource) (now : Instant) (r : Http.Request) (s : Service) :
    Route → Handling × List String × Service
  | .health => (.answered s.health, [], s)
  | .metrics => (.answered s.counts, [], s)
  | .search =>
    let (response, calls, s) := s.answerSearch source now r
    (.answered response, calls, s)
  | .explain =>
    let (handling, s) := follow .explain now r (s.considerExplain now r)
    (handling, [], s)
  | .chat =>
    let (handling, s) := follow .chat now r (s.considerChat now r)
    (handling, [], s)

/-- Takes a request, whatever it is for. -/
def take (source : EditionSource) (now : Instant) (r : Http.Request) (s : Service) :
    Handling × List String × Service :=
  let route := Route.ofPath? r.target.path
  if r.method == "OPTIONS" then (.answered (permission route), [], s)
  else
    match route with
    | none => (.answered (.bare 404 []), [], s)
    | some route =>
      if route.methods.contains r.method then s.handle source now r route
      else (.answered (.bare 405 [allowHeader route]), [], s)

/-- A handling as it is made known: an answer gets the headers that every answer has, and loses
its body if only its head was asked for. -/
def finished (s : Service) (r : Http.Request) : Handling → Handling
  | .answered response =>
    .answered (s.dressed r.id (if r.method == "HEAD" then response.withoutBody else response))
  | .pending p => .pending p

/-- Takes a request at an instant.  Gives what becomes of it and the calls of the source in the
order they were made. -/
def receive (source : EditionSource) (now : Instant) (r : Http.Request) (s : Service) :
    Handling × List String × Service :=
  let (handling, calls, s) := s.take source now r
  (s.finished r handling, calls, s)

/-- Answers a pending request with the reply of the model. -/
def resume (p : Pending) (reply : ModelReply) (now : Instant) (s : Service) :
    Http.Response × Service :=
  let response :=
    match p.errand with
    | .explain => explainResponse reply
    | .chat => chatResponse reply
  (s.dressed p.id response, s.conclude p.errand.endpoint p.since now response)

end Service

end HadithService
