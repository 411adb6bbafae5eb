import HadithService.Assistant.Requests
import HadithService.Http.Message

/-!
# Refusals

Why the assistant does not answer a client, and what the client is told.  The texts are for
readers of the page and never contain the wording of an error that arose inside.
-/

namespace HadithService

/-- Why a request for the assistant is refused. -/
inductive Refusal where
  | mediaType
  | unreadable
  | missingText
  | missingQuestion
  | tooManyExplanations
  | tooManyQuestions
  | assistant (e : AssistantError)
deriving DecidableEq, Repr

namespace Refusal

/-- The status of the answer. -/
def status : Refusal → Nat
  | .mediaType => 400
  | .unreadable => 400
  | .missingText => 400
  | .missingQuestion => 400
  | .tooManyExplanations => 429
  | .tooManyQuestions => 429
  | .assistant (.model .missingKey) => 500
  | .assistant (.model (.status code)) => Http.forwardedStatus code
  | .assistant _ => Http.badGateway

/-- What the client reads when the model sent something that cannot be used. -/
def unusableReply : String :=
  "تعذرت قراءة رد خدمة الذكاء الاصطناعي. يرجى المحاولة مجدداً"

/-- What the client reads. -/
def message : Refusal → String
  | .mediaType => "يجب أن يكون نوع المحتوى application/json"
  | .unreadable => "البيانات المرسلة غير صحيحة"
  | .missingText => "لم يتم تقديم نص للشرح"
  | .missingQuestion => "يجب توفير نص الحديث والسؤال"
  | .tooManyExplanations => "تم تجاوز حد الطلبات اليومية لميزة الشرح"
  | .tooManyQuestions => "تم تجاوز حد الطلبات اليومية للدردشة"
  | .assistant (.model .missingKey) =>
    "مفتاح API OpenAI غير متوفر. يرجى تكوين البيئة بشكل صحيح."
  | .assistant (.model (.status code)) => "خطأ من OpenAI API: " ++ toString code
  | .assistant (.model .timeout) => "انتهت مهلة الانتظار. يرجى المحاولة مجدداً"
  | .assistant (.model .request) =>
    "تعذر الاتصال بخدمة الذكاء الاصطناعي. يرجى المحاولة لاحقاً"
  | .assistant (.model (.invalidResponse _)) => unusableReply
  | .assistant (.malformed _) => unusableReply

/-- The answer to the client. -/
def response (r : Refusal) : Http.Response :=
  .ofJson r.status (.object [("error", .string r.message)])

end Refusal

end HadithService
