import HadithService.Http.Message
import HadithService.Service.Basic
import HadithService.Service.Input

/-!
# Answering requests for explanations

The model is asked only for a request that has passed every check: its body can be read, it has
a text, and its client has not called too often.
-/

namespace HadithService

/-- What becomes of a request for the assistant: it is answered, or the model is asked. -/
inductive Verdict where
  | answered (response : Http.Response)
  | asking (request : ModelRequest)

namespace Service

/-- Checks a request for an explanation. -/
def considerExplain (now : Instant) (r : Http.Request) (s : Service) : Verdict × Service :=
  match Input.ofBody Input.Explain.decoder r with
  | .error e => (.answered e.response, s)
  | .ok input =>
    let text := Text.sanitize Assistant.textLimit (input.text.getD "")
    if text.isEmpty then (.answered Refusal.missingText.response, s)
    else
      let (isAllowed, limiter) := s.explainLimiter.check (Http.clientOf r.headers r.peer) now
      let s := { s with explainLimiter := limiter }
      if isAllowed then (.asking (Assistant.explainRequest text), s)
      else (.answered Refusal.tooManyExplanations.response, s.count .rateLimited)

/-- The answer to a request for an explanation once the model has replied. -/
def explainResponse (reply : ModelReply) : Http.Response :=
  match Assistant.explanation reply with
  | .ok e => .ofJson 200 e.toJson
  | .error e => (Refusal.assistant e).response

end Service

end HadithService
