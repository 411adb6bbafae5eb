import HadithService.Proofs.Assistant.Replies
import HadithService.Proofs.Service.Quotas
import HadithService.Proofs.Text.Sanitize

/-!
# Answers to requests for explanations

Every refusal has the status of an error and tells nothing but its message
(`Refusal.isErrorStatus_status`), whatever status the model's server has answered with.  So a client
that waits for an explanation gets one that has been cut, or an error
(`Service.explains_or_refuses`).
-/

namespace HadithService

/-! ### Refusals -/

theorem Http.isErrorStatus_iff {code : Nat} :
  isErrorStatus code = true ↔ 400 ≤ code ∧ code < 600
  := by
  rw [isErrorStatus, Bool.and_eq_true, decide_eq_true_iff, decide_eq_true_iff]

theorem Http.isErrorStatus_forwardedStatus (code : Nat) :
  isErrorStatus (forwardedStatus code) = true
  := by
  rw [forwardedStatus]
  split
  · assumption
  · rfl

/-- No refusal is taken for a success. -/
theorem Refusal.isErrorStatus_status (refusal : Refusal) :
  Http.isErrorStatus refusal.status = true
  := by
  cases refusal with
  | assistant e =>
    cases e with
    | model e =>
      cases e with
      | status code => apply Http.isErrorStatus_forwardedStatus
      | _ => rfl
    | malformed e => rfl
  | _ => rfl

namespace Explanation

variable {text : String} {e : Explanation}

/-! ### Explanations from replies -/

theorem sanitized_keywords (e : Explanation) :
  e.sanitized.keywords = kept e.keywords
  := by
  rw [kept]
  apply congrArg (List.take 10)
  apply List.filter_congr
  intro k _
  rw [Bool.eq_iff_iff, Bool.not_eq_true', String.isEmpty_eq_false_iff, decide_eq_true_iff]

theorem mem_kept {keywords : List String} {k : String} (h : k ∈ kept keywords) :
  k ≠ "" ∧ ∃ keyword ∈ keywords, k = Text.sanitize 50 keyword
  := by
  obtain ⟨hmem, hfull⟩ := List.mem_filter.mp (List.mem_of_mem_take h)
  obtain ⟨keyword, hkeyword, rfl⟩ := List.mem_map.mp hmem
  use of_decide_eq_true hfull, keyword, hkeyword

/-- What is left of an explanation that says something can be presented. -/
theorem isPresentable_sanitized (e : Explanation) (h : e.sanitized.HasContent) :
  e.sanitized.IsPresentable
  where
    summary := Text.length_sanitize_le 500 e.summary
    explanation := Text.length_sanitize_le 5000 e.explanation
    content := h
    keywords := List.length_take_le _ _
    keyword k hk := by
      rw [sanitized_keywords] at hk
      obtain ⟨hfull, keyword, -, rfl⟩ := mem_kept hk
      constructor
      · apply Nat.one_le_iff_ne_zero.mpr
        rw [Ne, String.length_eq_zero_iff]
        apply hfull
      · apply Text.length_sanitize_le
    clean s hs := by
      rw [sanitized_keywords] at hs
      rcases List.mem_cons.mp hs with rfl | hs
      · apply Text.nul_not_mem_sanitize
      · rcases List.mem_cons.mp hs with rfl | hs
        · apply Text.nul_not_mem_sanitize
        · obtain ⟨-, keyword, -, rfl⟩ := mem_kept hs
          apply Text.nul_not_mem_sanitize

/-- An explanation that is accepted is what is left of one that stands in the reply. -/
theorem exists_of_ofReply (h : ofReply text = .ok e) :
  ∃ given : Explanation, given.IsText (unfence text.toList) ∧ given.sanitized.HasContent ∧
    e = given.sanitized
  := by
  rw [ofReply] at h
  split at h
  case isTrue => cases h
  case isFalse =>
    cases hread : (Draft.whole? ((unfence text.toList).map some)).bind decoder.run with
    | none =>
      rw [hread] at h
      cases h
    | some given =>
      rw [hread] at h
      simp only at h
      split at h
      case isTrue => cases h
      case isFalse hcontent =>
        use given, read_eq_some_iff.mp hread
        use hasContent_iff.mpr (Bool.eq_false_iff.mpr hcontent)
        exact (Except.ok.inj h).symm

end Explanation

namespace Service

open Explanation (IsUnusable)

variable {source : EditionSource} {s : Service} {now : Instant} {r : Http.Request} {p : Pending}
  {reply reply' : ModelReply}

/-! ### Answers -/

theorem explainResponse_of_accepted {text : String} {e : Explanation}
    (h : Explanation.ofReply text = .ok e) :
  explainResponse (.ok text) = .ofJson 200 e.toJson
  := by
  rw [explainResponse, Assistant.explanation]
  simp only [h]

theorem explanation_eq_error
    (h : ∀ text e, reply = .ok text → Explanation.ofReply text ≠ .ok e) :
  ∃ e, Assistant.explanation reply = .error e
  := by
  cases reply with
  | error e => exact ⟨.model e, rfl⟩
  | ok text =>
    rw [Assistant.explanation]
    cases hreply : Explanation.ofReply text with
    | error e => exact ⟨.malformed e, rfl⟩
    | ok e => cases h text e rfl hreply

theorem explainResponse_of_refused
    (h : ∀ text e, reply = .ok text → Explanation.ofReply text ≠ .ok e) :
  (400 ≤ (explainResponse reply).status ∧ (explainResponse reply).status < 600) ∧
    ∃ message, (explainResponse reply).body = .json (.object [("error", .string message)])
  := by
  obtain ⟨e, he⟩ := explanation_eq_error h
  rw [explainResponse, he]
  use Http.isErrorStatus_iff.mp (Refusal.isErrorStatus_status _)
  exact ⟨_, rfl⟩

/-- An answer is a success exactly if the reply is accepted. -/
theorem explainResponse_status_iff :
  (explainResponse reply).status = 200
    ↔ ∃ text e, reply = .ok text ∧ Explanation.ofReply text = .ok e
  := by
  constructor
  · intro hstatus
    by_contra hnot
    have hrefused := explainResponse_of_refused fun text e htext hok => hnot ⟨text, e, htext, hok⟩
    have hless := hrefused.1.1
    omega
  · rintro ⟨text, e, rfl, hok⟩
    rw [explainResponse_of_accepted hok]
    rfl

/-- All replies without an explanation are answered in the same way. -/
theorem explainResponse_of_unusable (h : IsUnusable reply) :
  explainResponse reply = .ofJson 502 (.object [("error", .string Refusal.unusableReply)])
  := by
  cases h with
  | invalid detail => rfl
  | malformed h =>
    rw [explainResponse, Assistant.explanation]
    simp only [h]
    rfl

theorem errand_of_pending (h : (s.receive source now r).1 = .pending p) :
  Errand.ofRequest? r = some p.errand
  := by
  obtain ⟨a, happeal, -, -, rfl⟩ := (receive_eq_pending_iff source).mp h
  apply (appeal_of_request happeal).1

theorem resume_explain (h : p.errand = .explain) (t : Service) (later : Instant) :
  (t.resume p reply later).1 = t.dressed p.id (explainResponse reply)
  := by
  rw [resume, h]

/-- What is answered to a request for an explanation that has reached the model, whatever the model
replies and whenever it does.  The answer is a success exactly if the reply is accepted; it then
contains what is left of an explanation that stands in the reply, with the first ten keywords of
which something is left.  In every other case the answer has the status of an error and tells a
message only, which is the same for all replies that came but cannot be used. -/
theorem explains_or_refuses (herrand : Errand.ofRequest? r = some .explain)
    (hpending : (s.receive source now r).1 = .pending p) (t : Service) (later : Instant)
    (reply : ModelReply) :
  let response := (t.resume p reply later).1
  (response.status = 200 ↔ ∃ text e, reply = .ok text ∧ Explanation.ofReply text = .ok e) ∧
  (∀ text e, reply = .ok text → Explanation.ofReply text = .ok e →
    response.body = .json (.object
        [("summary", .string e.summary), ("explanation", .string e.explanation),
          ("keywords", .array (e.keywords.map .string))]) ∧
    e.IsPresentable ∧
    ∃ body given, Explanation.Unfenced text.toList body ∧ Explanation.IsText given body ∧
      e.summary = Text.sanitize 500 given.summary ∧
      e.explanation = Text.sanitize 5000 given.explanation ∧
      e.keywords = Explanation.kept given.keywords) ∧
  ((∀ text e, reply = .ok text → Explanation.ofReply text ≠ .ok e) →
    400 ≤ response.status ∧ response.status < 600 ∧
    ∃ message, response.body = .json (.object [("error", .string message)])) ∧
  ∀ reply', IsUnusable reply → IsUnusable reply' → response = (t.resume p reply' later).1
  := by
  intro response
  have hexplain : p.errand = .explain :=
    Option.some.inj ((errand_of_pending hpending).symm.trans herrand)
  have hresponse : ∀ reply, (t.resume p reply later).1 = t.dressed p.id (explainResponse reply) :=
    fun _ => resume_explain hexplain t later
  constructor
  · rw [show response = _ from hresponse reply]
    apply explainResponse_status_iff
  · constructor
    · rintro text e rfl hok
      constructor
      · rw [show response = _ from hresponse _, explainResponse_of_accepted hok]
        rfl
      · obtain ⟨given, hgiven, hcontent, rfl⟩ := Explanation.exists_of_ofReply hok
        use given.isPresentable_sanitized hcontent
        use Explanation.unfence text.toList, given, Explanation.unfenced_iff.mpr rfl, hgiven
        use rfl, rfl
        apply given.sanitized_keywords
    · constructor
      · intro hnot
        obtain ⟨⟨hfrom, hto⟩, hbody⟩ := explainResponse_of_refused hnot
        rw [show response = _ from hresponse reply]
        exact ⟨hfrom, hto, hbody⟩
      · intro reply' h h'
        rw [show response = _ from hresponse reply, hresponse, explainResponse_of_unusable h,
          explainResponse_of_unusable h']

/-- A reply with an explanation. -/
def writtenReply : String :=
  "\x7b\"summary\":\"s\",\"explanation\":\"\",\"keywords\":[\"k\"]\x7d"

theorem explains_or_refuses_posted :
  let source : EditionSource := fun _ => ⟨0, .error .request⟩
  ∃ p, (sparing.receive source 5 (posted "/api/explain" "[\"h\"]")).1 = .pending p ∧
    (spent.resume p (.ok writtenReply) 7).1.status = 200 ∧
    (spent.resume p (.ok writtenReply) 7).1.body
      = .json (.object
          [("summary", .string "s"), ("explanation", .string ""),
            ("keywords", .array [.string "k"])]) ∧
    400 ≤ (spent.resume p (.error (.status 200)) 7).1.status ∧
    ∃ message, (spent.resume p (.error (.status 200)) 7).1.body
      = .json (.object [("error", .string message)])
  := by
  intro source
  have haccepted : Explanation.ofReply writtenReply = .ok ⟨"s", "", ["k"]⟩ := by rfl
  obtain ⟨p, hpending⟩ : ∃ p,
      (sparing.receive source 5 (posted "/api/explain" "[\"h\"]")).1 = .pending p := ⟨_, rfl⟩
  have hanswers := explains_or_refuses rfl hpending spent 7
  obtain ⟨hstatus, hbody, -, -⟩ := hanswers (.ok writtenReply)
  obtain ⟨-, -, hrefused, -⟩ := hanswers (.error (.status 200))
  use p, hpending
  constructor
  · apply hstatus.mpr
    exact ⟨writtenReply, _, rfl, haccepted⟩
  · use (hbody writtenReply _ rfl haccepted).1
    obtain ⟨hfrom, -, htold⟩ := hrefused (by rintro _ _ ⟨⟩)
    use hfrom

end Service

end HadithService
