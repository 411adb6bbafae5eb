import HadithService.Service.Events
import Mathlib.Tactic.Use

/-!
# What becomes of questions

A question that is heard goes to its conversation (`Service.receive_of_hears`).  Whatever else
happens to the service leaves the strikes as they are, except that a sweep drops what has expired.
-/

namespace HadithService.Service

variable {source : EditionSource} {s : Service} {now : Instant} {r : Http.Request}
  {q : ChatQuestion}

/-! ### What leaves the strikes as they are -/

@[simp]
theorem follow_offTopic (errand : Errand) (now : Instant) (r : Http.Request)
    (verdict : Verdict × Service) :
  (follow errand now r verdict).2.offTopic = verdict.2.offTopic
  := by
  obtain ⟨response | request, s⟩ := verdict
  · rfl
  · rfl

theorem considerExplain_offTopic (now : Instant) (r : Http.Request) (s : Service) :
  (s.considerExplain now r).2.offTopic = s.offTopic
  := by
  rw [considerExplain]
  cases Input.ofBody Input.Explain.decoder r with
  | error e => rfl
  | ok input =>
    simp only
    split
    · rfl
    · split
      · rfl
      · rfl

/-- A search changes nothing but what has been fetched and the metrics. -/
theorem answerSearch_eq (source : EditionSource) (now : Instant) (r : Http.Request)
    (s : Service) :
  let t := (s.answerSearch source now r).2.2
  t = { s with store := t.store, metrics := t.metrics }
  := by
  rw [answerSearch]
  cases Input.search r.target.query with
  | error name => rfl
  | ok q =>
    obtain ⟨found, calls, store⟩ := Search.search source q (s.store.wait now)
    rfl

/-! ### Questions -/

/-- The client is to blame for what cannot be read. -/
theorem status_of_unread {α : Type} {d : Decoder α} {refusal : Refusal}
    (h : Input.ofBody d r = .error refusal) :
  refusal.status = 400
  := by
  rw [Input.ofBody] at h
  split at h
  · obtain rfl := Except.error.inj h
    rfl
  · split at h
    · obtain rfl := Except.error.inj h
      rfl
    · split at h
      · obtain rfl := Except.error.inj h
        rfl
      · cases h

/-- A request for the route of questions that is no question is refused. -/
theorem considerChat_of_none (hmethod : r.method = "POST")
    (hpath : Route.ofPath? r.target.path = some .chat) (h : ChatQuestion.ofRequest? r = none) :
  ∃ response, response.status = 400 ∧
    ∀ (s : Service) (now : Instant), s.considerChat now r = (.answered response, s)
  := by
  have hrequest : (r.method == "POST" && Route.ofPath? r.target.path == some .chat) = true := by
    rw [hmethod, hpath]
    rfl
  rw [ChatQuestion.ofRequest?, if_pos hrequest] at h
  cases hbody : Input.ofBody Input.Chat.decoder r with
  | error e =>
    use e.response, status_of_unread hbody
    intro s now
    rw [considerChat, hbody]
  | ok input =>
    simp only [hbody] at h
    split at h
    · rename_i hempty
      use Refusal.missingQuestion.response, rfl
      intro s now
      rw [considerChat, hbody]
      apply if_pos hempty
    · cases h

/-- A question counts for its client, and is taken in its conversation unless the client has
called too often. -/
theorem considerChat_of_some (h : ChatQuestion.ofRequest? r = some q) :
  s.considerChat now r =
    let counted := { s with chatLimiter := (s.chatLimiter.check q.client now).2 }
    if (s.chatLimiter.check q.client now).1 then
      counted.hear now q.session q.hadith q.text q.history
    else (.answered Refusal.tooManyQuestions.response, counted.count .rateLimited)
  := by
  rw [ChatQuestion.ofRequest?] at h
  split at h
  · rw [considerChat]
    cases hbody : Input.ofBody Input.Chat.decoder r with
    | error e =>
      rw [hbody] at h
      cases h
    | ok input =>
      simp only [hbody] at h ⊢
      split at h
      · cases h
      · rename_i hfull
        obtain rfl := Option.some.inj h
        rw [if_neg hfull]
  · cases h

theorem route_of_some (h : ChatQuestion.ofRequest? r = some q) :
  r.method = "POST" ∧ Route.ofPath? r.target.path = some .chat
  := by
  rw [ChatQuestion.ofRequest?] at h
  split at h
  · rename_i hrequest
    obtain ⟨hmethod, hpath⟩ := Bool.and_eq_true_iff.mp hrequest
    use eq_of_beq hmethod, eq_of_beq hpath
  · cases h

/-- A request for the route of questions that is not heard leaves the strikes as they are. -/
theorem considerChat_offTopic (hmethod : r.method = "POST")
    (hpath : Route.ofPath? r.target.path = some .chat) (h : s.hears? now r = none) :
  (s.considerChat now r).2.offTopic = s.offTopic
  := by
  cases hquestion : ChatQuestion.ofRequest? r with
  | none =>
    obtain ⟨response, -, heq⟩ := considerChat_of_none hmethod hpath hquestion
    rw [heq]
  | some q =>
    have hdenied : ¬ (s.chatLimiter.check q.client now).1 = true := by
      intro hallowed
      rw [hears?, hquestion, Option.filter_some, if_pos hallowed] at h
      cases h
    rw [considerChat_of_some hquestion]
    simp only
    rw [if_neg hdenied]
    rfl

/-- A request that is not heard as a question leaves the strikes as they are. -/
theorem receive_offTopic (source : EditionSource) (h : s.hears? now r = none) :
  (s.receive source now r).2.2.offTopic = s.offTopic
  := by
  change (s.take source now r).2.2.offTopic = s.offTopic
  rw [take]
  split
  · rfl
  · cases hpath : Route.ofPath? r.target.path with
    | none => rfl
    | some route =>
      simp only
      split
      · rename_i hmethod
        cases route with
        | health => rfl
        | search =>
          have htracker := congrArg Service.offTopic (answerSearch_eq source now r s)
          exact htracker
        | explain => exact (follow_offTopic _ _ _ _).trans (considerExplain_offTopic now r s)
        | chat =>
          have hpost : r.method = "POST" := by simpa [Route.methods] using hmethod
          exact (follow_offTopic _ _ _ _).trans (considerChat_offTopic hpost hpath h)
        | metrics => rfl
      · rfl

/-! ### Questions that are heard -/

/-- A question that is heard is taken in its conversation, and counts for its client. -/
theorem receive_of_hears (source : EditionSource) (h : s.hears? now r = some q) :
  s.receive source now r =
    let heard := { s with chatLimiter := (s.chatLimiter.check q.client now).2 }
    let handled := follow .chat now r (heard.hear now q.session q.hadith q.text q.history)
    (handled.2.finished r handled.1, [], handled.2)
  := by
  obtain ⟨hquestion, hallowed⟩ := Option.filter_eq_some_iff.mp h
  obtain ⟨hmethod, hpath⟩ := route_of_some hquestion
  have htake : s.take source now r =
      let handled := follow .chat now r (s.considerChat now r)
      (handled.1, [], handled.2) := by
    rw [take, hmethod, hpath]
    rfl
  rw [receive, htake, considerChat_of_some hquestion]
  simp only
  rw [if_pos hallowed]

/-- In a closed conversation a question is answered with the closure, and no model is asked. -/
theorem receive_of_closed (source : EditionSource) (h : s.hears? now r = some q)
    (hclosed : s.offTopic.isClosed q.session now = true) :
  (s.receive source now r).1 = .answered (s.dressed r.id Chat.closed) ∧
    (s.receive source now r).2.2.offTopic = s.offTopic
  := by
  obtain ⟨hmethod, -⟩ := route_of_some (Option.filter_eq_some_iff.mp h).1
  rw [receive_of_hears source h]
  simp only [hear, hclosed, if_true, follow, finished, hmethod]
  constructor
  · rfl
  · rfl

/-- In an open conversation a question that belongs to it goes to the model. -/
theorem receive_of_relevant (source : EditionSource) (h : s.hears? now r = some q)
    (hopen : s.offTopic.isClosed q.session now = false) (hrelevant : q.isRelevant = true) :
  (s.receive source now r).1
      = .pending ⟨r.id, .chat, r.arrival,
          Assistant.answerRequest q.hadith (usableHistory q.history) q.text⟩ ∧
    (s.receive source now r).2.2.offTopic = s.offTopic
  := by
  rw [ChatQuestion.isRelevant] at hrelevant
  rw [receive_of_hears source h]
  simp only [hear, hopen, Bool.false_eq_true, if_false, hrelevant, if_true, follow, finished,
    and_self]

/-- In an open conversation a question that does not belong to it is a strike. -/
theorem receive_of_strike (source : EditionSource) (h : s.hears? now r = some q)
    (hopen : s.offTopic.isClosed q.session now = false) (hstrayed : q.isRelevant = false) :
  let strike := (s.offTopic.record q.session now).1
  (s.receive source now r).1
      = .answered (s.dressed r.id (if strike.shouldClose then Chat.closed else Chat.offTopic strike)) ∧
    (s.receive source now r).2.2.offTopic = (s.offTopic.record q.session now).2
  := by
  obtain ⟨hmethod, -⟩ := route_of_some (Option.filter_eq_some_iff.mp h).1
  rw [ChatQuestion.isRelevant] at hstrayed
  rw [receive_of_hears source h]
  simp only [hear, hopen, Bool.false_eq_true, if_false, hstrayed, follow, finished, hmethod]
  constructor
  · rfl
  · rfl

end HadithService.Service
