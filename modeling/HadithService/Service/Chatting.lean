import HadithService.Relevance.Gate
import HadithService.Service.Explaining

/-!
# Answering questions

A question goes to the model only if its conversation is open and it has to do with the hadith.
A question that has not is a strike against its conversation, which is closed after too many.  A
conversation goes by the name that the client gives it, or else by the client.
-/

namespace HadithService

namespace Chat

/-- The greatest number of characters of the name of a conversation. -/
def sessionLimit : Nat := 128

/-- What a client reads whose question is off the topic. -/
def offTopicNotice : String :=
  "الرجاء طرح أسئلة ذات صلة بالحديث الشريف فقط 🤲\n\n" ++
  "هذا حوار مخصص لشرح ومناقشة الحديث المعروض. يرجى احترام قواعد الحوار وعدم الخروج عن الموضوع."

/-- What a client reads whose conversation is closed. -/
def closedNotice : String :=
  "تم إغلاق الدردشة بسبب تكرار الأسئلة غير ذات الصلة. " ++
  "يرجى احترام قواعد الحوار والاقتصار على أسئلة الحديث الشريف فقط."

/-- What a client also reads from the second strike on. -/
def warning (remaining : Nat) : String :=
  "\n\n⚠️ تنبيه: لديك " ++ toString remaining ++ " محاولات متبقية قبل إغلاق الدردشة."

/-- The answer in a conversation that is closed. -/
def closed : Http.Response :=
  .ofJson 400
    (.object [("success", .bool false), ("error", .string closedNotice),
      ("shouldCloseChat", .bool true)])

/-- The answer to a strike that leaves the conversation open. -/
def offTopic (strike : Strike) : Http.Response :=
  let notice :=
    if 1 < strike.count then offTopicNotice ++ warning strike.remaining else offTopicNotice
  .ofJson 400
    (.object [("success", .bool false), ("answer", .string notice), ("isOffTopic", .bool true)])

/-- The answer to a question that the model has answered. -/
def answered (text : String) : Http.Response :=
  .ofJson 200 (.object [("success", .bool true), ("answer", .string text)])

/-- The name of the conversation that a client's question belongs to. -/
def sessionOf (given : Option String) (client : String) : String :=
  let name := Text.sanitize sessionLimit (given.getD "")
  if name.isEmpty then client else name

end Chat

namespace Service

/-- Takes a question in a conversation about a hadith. -/
def hear (now : Instant) (session hadith question : String) (history : List Json) (s : Service) :
    Verdict × Service :=
  if s.offTopic.isClosed session now then (.answered Chat.closed, s)
  else if Relevance.isRelevant question hadith then
    (.asking (Assistant.answerRequest hadith (usableHistory history) question), s)
  else
    let (strike, tracker) := s.offTopic.record session now
    let s := { s with offTopic := tracker }.count (.offTopic strike.shouldClose)
    (.answered (if strike.shouldClose then Chat.closed else Chat.offTopic strike), s)

/-- Checks a request to answer a question. -/
def considerChat (now : Instant) (r : Http.Request) (s : Service) : Verdict × Service :=
  match Input.ofBody Input.Chat.decoder r with
  | .error e => (.answered e.response, s)
  | .ok input =>
    let hadith := Text.sanitize Assistant.textLimit (input.hadith.getD "")
    let question := Text.sanitize Assistant.questionLimit (input.question.getD "")
    if hadith.isEmpty || question.isEmpty then (.answered Refusal.missingQuestion.response, s)
    else
      let client := Http.clientOf r.headers r.peer
      let (isAllowed, limiter) := s.chatLimiter.check client now
      let s := { s with chatLimiter := limiter }
      if isAllowed then
        s.hear now (Chat.sessionOf input.session client) hadith question
          ((input.history.map Json.items).getD [])
      else (.answered Refusal.tooManyQuestions.response, s.count .rateLimited)

/-- The answer to a question once the model has replied. -/
def chatResponse (reply : ModelReply) : Http.Response :=
  match Assistant.answer reply with
  | .ok text => Chat.answered text
  | .error e => (Refusal.assistant e).response

end Service

end HadithService
