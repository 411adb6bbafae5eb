import HadithService.Proofs.Limits.RateLimiter
import HadithService.Proofs.Service.Chatting
import HadithService.Service.Appeals

/-!
# What becomes of appeals

A request for the assistant that is no appeal is refused and leaves the service as it was
(`Service.consider_of_none`).  An appeal is counted for its client, and goes on only if the limiter
of its errand allows it (`Service.consider_of_some`): to the model if the service is open to it
(`Service.proceed_of_open`), or else to an answer that asks no model.
-/

namespace HadithService

/-- The refusal of an appeal that the limiter of its errand does not allow. -/
def Errand.denial : Errand → Refusal
  | .explain => .tooManyExplanations
  | .chat => .tooManyQuestions

/-- The route of an errand. -/
def Errand.route : Errand → Route
  | .explain => .explain
  | .chat => .chat

namespace Service

variable {source : EditionSource} {s t : Service} {e : Errand} {now : Instant}
  {r : Http.Request} {a : Appeal} {q : ChatQuestion} {response : Http.Response}
  {request : ModelRequest}

/-! ### Requests and appeals -/

theorem errand_route (h : Errand.ofRequest? r = some e) :
  r.method = "POST" ∧ Route.ofPath? r.target.path = some e.route
  := by
  rw [Errand.ofRequest?] at h
  split at h
  · rename_i hmethod
    use eq_of_beq hmethod
    split at h
    · obtain rfl := Option.some.inj h
      assumption
    · obtain rfl := Option.some.inj h
      assumption
    · cases h
  · cases h

theorem explanation?_eq_some (h : Appeal.explanation? r = some a) :
  ∃ hadith, a = .explanation (Http.clientOf r.headers r.peer) hadith
  := by
  rw [Appeal.explanation?] at h
  split at h
  · cases h
  · simp only at h
    split at h
    · cases h
    · obtain rfl := Option.some.inj h
      exact ⟨_, rfl⟩

theorem question_client (h : ChatQuestion.ofRequest? r = some q) :
  q.client = Http.clientOf r.headers r.peer
  := by
  rw [ChatQuestion.ofRequest?] at h
  split at h
  · split at h
    · cases h
    · simp only at h
      split at h
      · cases h
      · obtain rfl := Option.some.inj h
        rfl
  · cases h

/-- An appeal is for the errand of the request and by its client. -/
theorem appeal_of_request (h : Appeal.ofRequest? r = some a) :
  Errand.ofRequest? r = some a.errand ∧ a.client = Http.clientOf r.headers r.peer
  := by
  rw [Appeal.ofRequest?] at h
  cases herrand : Errand.ofRequest? r with
  | none =>
    rw [herrand] at h
    cases h
  | some e =>
    rw [herrand] at h
    cases e with
    | explain =>
      obtain ⟨hadith, rfl⟩ := explanation?_eq_some h
      constructor
      · rfl
      · rfl
    | chat =>
      obtain ⟨q, hq, rfl⟩ := Option.map_eq_some_iff.mp h
      use rfl
      apply question_client hq

theorem errand_of_question (h : ChatQuestion.ofRequest? r = some q) :
  Errand.ofRequest? r = some .chat
  := by
  obtain ⟨hmethod, hpath⟩ := route_of_some h
  rw [Errand.ofRequest?, hmethod, hpath]
  rfl

theorem appeal_eq_question_iff :
  Appeal.ofRequest? r = some (.question q) ↔ ChatQuestion.ofRequest? r = some q
  := by
  constructor
  · intro h
    rw [Appeal.ofRequest?, (appeal_of_request h).1] at h
    obtain ⟨_, hquestion, ⟨⟩⟩ := Option.map_eq_some_iff.mp h
    apply hquestion
  · intro h
    rw [Appeal.ofRequest?, errand_of_question h, h]
    rfl

/-! ### The verdict on a request -/

/-- Checks a request for an errand. -/
def consider (s : Service) (now : Instant) (r : Http.Request) : Errand → Verdict × Service
  | .explain => s.considerExplain now r
  | .chat => s.considerChat now r

/-- The service once an appeal has been counted for its client. -/
def charge (s : Service) (now : Instant) : Appeal → Service
  | .explanation client _ =>
    { s with explainLimiter := (s.explainLimiter.check client now).2 }
  | .question q => { s with chatLimiter := (s.chatLimiter.check q.client now).2 }

/-- Goes on with an appeal that has been allowed. -/
def proceed (s : Service) (now : Instant) : Appeal → Verdict × Service
  | .explanation _ hadith => (.asking (Assistant.explainRequest hadith), s)
  | .question q => s.hear now q.session q.hadith q.text q.history

theorem considerExplain_of_none (h : Appeal.explanation? r = none) :
  ∃ response, response.status = 400 ∧
    ∀ (s : Service) (now : Instant), s.considerExplain now r = (.answered response, s)
  := by
  rw [Appeal.explanation?] at h
  cases hbody : Input.ofBody Input.Explain.decoder r with
  | error e =>
    use e.response, status_of_unread hbody
    intro s now
    rw [considerExplain, hbody]
  | ok input =>
    simp only [hbody] at h
    split at h
    · rename_i hempty
      use Refusal.missingText.response, rfl
      intro s now
      rw [considerExplain, hbody]
      apply if_pos hempty
    · cases h

theorem considerExplain_of_some (h : Appeal.explanation? r = some a) :
  s.considerExplain now r =
    if (s.explainLimiter.check a.client now).1 then (s.charge now a).proceed now a
    else (.answered Refusal.tooManyExplanations.response, (s.charge now a).count .rateLimited)
  := by
  rw [Appeal.explanation?] at h
  rw [considerExplain]
  cases hbody : Input.ofBody Input.Explain.decoder r with
  | error e =>
    rw [hbody] at h
    cases h
  | ok input =>
    simp only [hbody] at h ⊢
    split at h
    · cases h
    · rename_i hfull
      obtain rfl := Option.some.inj h
      rw [if_neg hfull]
      rfl

/-- A request for the assistant that is no appeal is refused, and the service stays as it was. -/
theorem consider_of_none (h : Errand.ofRequest? r = some e) (hnone : Appeal.ofRequest? r = none) :
  ∃ response, response.status = 400 ∧
    ∀ (s : Service) (now : Instant), s.consider now r e = (.answered response, s)
  := by
  rw [Appeal.ofRequest?, h] at hnone
  obtain ⟨hmethod, hpath⟩ := errand_route h
  cases e with
  | explain => apply considerExplain_of_none hnone
  | chat => apply considerChat_of_none hmethod hpath (Option.map_eq_none_iff.mp hnone)

/-- An appeal is counted, and goes on if it is allowed. -/
theorem consider_of_some (s : Service) (now : Instant) (h : Appeal.ofRequest? r = some a) :
  s.consider now r a.errand =
    if ((s.limiter a.errand).check a.client now).1 then (s.charge now a).proceed now a
    else (.answered a.errand.denial.response, (s.charge now a).count .rateLimited)
  := by
  cases a with
  | explanation client hadith =>
    rw [Appeal.ofRequest?, (appeal_of_request h).1] at h
    apply considerExplain_of_some h
  | question q => apply considerChat_of_some (appeal_eq_question_iff.mp h)

/-! ### Appeals that are allowed -/

/-- An appeal to which the service is open goes to the model. -/
theorem proceed_of_open (h : s.isOpenTo now a = true) :
  s.proceed now a = (.asking a.modelRequest, s)
  := by
  cases a with
  | explanation client hadith => rfl
  | question q =>
    obtain ⟨hopen, hrelevant⟩ := Bool.and_eq_true_iff.mp h
    have hclosed : ¬ s.offTopic.isClosed q.session now = true := by simpa using hopen
    rw [proceed, hear, if_neg hclosed]
    apply if_pos hrelevant

/-- In a closed conversation a question is answered with the closure. -/
theorem proceed_of_closed (h : s.offTopic.isClosed q.session now = true) :
  s.proceed now (.question q) = (.answered Chat.closed, s)
  := by
  rw [proceed, hear, if_pos h]

/-- What is answered to a strike. -/
def strikeResponse (strike : Strike) : Http.Response :=
  if strike.shouldClose then Chat.closed else Chat.offTopic strike

theorem strikeResponse_status (strike : Strike) :
  (strikeResponse strike).status = 400
  := by
  rw [strikeResponse]
  split
  · rfl
  · rfl

/-- In an open conversation a question that does not belong to it is a strike. -/
theorem proceed_of_strayed (hopen : s.offTopic.isClosed q.session now = false)
    (hstrayed : q.isRelevant = false) :
  let strike := (s.offTopic.record q.session now).1
  s.proceed now (.question q)
    = (.answered (strikeResponse strike),
        { s with offTopic := (s.offTopic.record q.session now).2 }.count
          (.offTopic strike.shouldClose))
  := by
  rw [ChatQuestion.isRelevant] at hstrayed
  rw [proceed, hear, if_neg (Bool.eq_false_iff.mp hopen), if_neg (Bool.eq_false_iff.mp hstrayed)]
  rfl

/-! ### What becomes of a request -/

/-- A request for the assistant gets what the verdict on it says. -/
theorem receive_of_errand (source : EditionSource) (h : Errand.ofRequest? r = some e) :
  s.receive source now r =
    let handled := follow e now r (s.consider now r e)
    (handled.2.finished r handled.1, [], handled.2)
  := by
  obtain ⟨hmethod, hpath⟩ := errand_route h
  have htake : s.take source now r =
      let handled := follow e now r (s.consider now r e)
      (handled.1, [], handled.2) := by
    cases e with
    | explain =>
      rw [take, hmethod, hpath]
      rfl
    | chat =>
      rw [take, hmethod, hpath]
      rfl
  rw [receive, htake]

theorem receive_of_answered (source : EditionSource) (h : Errand.ofRequest? r = some e)
    (hverdict : s.consider now r e = (.answered response, t)) :
  (s.receive source now r).1.status? = some response.status ∧
    (s.receive source now r).2.2 = t.conclude e.endpoint r.arrival now response
  := by
  obtain ⟨hmethod, -⟩ := errand_route h
  rw [receive_of_errand source h, hverdict]
  constructor
  · simp only [follow, finished, hmethod]
    rfl
  · rfl

theorem receive_of_asking (source : EditionSource) (h : Errand.ofRequest? r = some e)
    (hverdict : s.consider now r e = (.asking request, t)) :
  (s.receive source now r).1 = .pending ⟨r.id, e, r.arrival, request⟩ ∧
    (s.receive source now r).2.2 = t
  := by
  rw [receive_of_errand source h, hverdict]
  constructor
  · rfl
  · rfl

/-- The routes of the errands are not reached by a request without one. -/
theorem not_contains_of_no_errand (h : Errand.ofRequest? r = none)
    (hpath : Route.ofPath? r.target.path = some e.route) :
  e.route.methods.contains r.method = false
  := by
  rw [Errand.ofRequest?, hpath] at h
  cases e with
  | explain => simpa [Errand.route, Route.methods] using h
  | chat => simpa [Errand.route, Route.methods] using h

/-- A request for the route of searches is answered as a search. -/
theorem take_of_search (source : EditionSource) (s : Service) (now : Instant)
    (h : (Route.ofPath? r.target.path == some .search
      && Route.search.methods.contains r.method) = true) :
  s.take source now r =
    let answer := s.answerSearch source now r
    (.answered answer.1, answer.2)
  := by
  obtain ⟨hpath, hmethod⟩ := Bool.and_eq_true_iff.mp h
  have hnot : ¬ (r.method == "OPTIONS") = true := by
    intro hoptions
    rw [eq_of_beq hoptions] at hmethod
    cases hmethod
  rw [take, if_neg hnot, eq_of_beq hpath]
  simp only [hmethod, if_true]
  rfl

/-- A request for the route of searches gets the answer to its search. -/
theorem receive_of_search (source : EditionSource) (s : Service) (now : Instant)
    (h : (Route.ofPath? r.target.path == some .search
      && Route.search.methods.contains r.method) = true) :
  s.receive source now r =
    let answer := s.answerSearch source now r
    (answer.2.2.finished r (.answered answer.1), answer.2)
  := by
  rw [receive, take_of_search source s now h]

/-- A request that is neither for the assistant nor a search is answered without any edition, and
the service stays as it was. -/
theorem take_of_plain (s : Service) (now : Instant) (h : Errand.ofRequest? r = none)
    (hsearch : ¬ (Route.ofPath? r.target.path == some .search
      && Route.search.methods.contains r.method) = true) :
  ∃ response, ∀ source, s.take source now r = (.answered response, [], s)
  := by
  simp only [take]
  split
  · exact ⟨_, fun _ => rfl⟩
  · cases hpath : Route.ofPath? r.target.path with
    | none => exact ⟨_, fun _ => rfl⟩
    | some route =>
      simp only
      split
      · rename_i hmethod
        cases route with
        | health => exact ⟨_, fun _ => rfl⟩
        | metrics => exact ⟨_, fun _ => rfl⟩
        | search =>
          rw [hpath, hmethod] at hsearch
          cases hsearch rfl
        | explain => cases (not_contains_of_no_errand (e := .explain) h hpath).symm.trans hmethod
        | chat => cases (not_contains_of_no_errand (e := .chat) h hpath).symm.trans hmethod
      · exact ⟨_, fun _ => rfl⟩

theorem take_of_no_errand (source : EditionSource) (s : Service) (now : Instant)
    (h : Errand.ofRequest? r = none) :
  let t := (s.take source now r).2.2
  (∃ response, (s.take source now r).1 = .answered response) ∧
    t = { s with store := t.store, metrics := t.metrics }
  := by
  by_cases hsearch : (Route.ofPath? r.target.path == some .search
      && Route.search.methods.contains r.method) = true
  · rw [take_of_search source s now hsearch]
    exact ⟨⟨_, rfl⟩, answerSearch_eq source now r s⟩
  · obtain ⟨response, htake⟩ := take_of_plain s now h hsearch
    rw [htake source]
    exact ⟨⟨_, rfl⟩, rfl⟩

/-- A request that is not for the assistant is answered at once, and changes nothing but what has
been fetched and the metrics. -/
theorem receive_of_no_errand (source : EditionSource) (s : Service) (now : Instant)
    (h : Errand.ofRequest? r = none) :
  let t := (s.receive source now r).2.2
  (∃ response, (s.receive source now r).1 = .answered response) ∧
    t = { s with store := t.store, metrics := t.metrics }
  := by
  obtain ⟨⟨response, hanswered⟩, hstate⟩ := take_of_no_errand source s now h
  rw [receive]
  simp only [hanswered]
  exact ⟨⟨_, rfl⟩, hstate⟩

end Service

end HadithService
