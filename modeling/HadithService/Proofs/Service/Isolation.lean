import HadithService.Proofs.Limits.Separation
import HadithService.Proofs.Service.Quotas
import HadithService.Service.Alone

/-!
# Clients that others do not disturb

A client whose questions name no conversation is answered as if it were the only client, as long as
nobody else is heard with a question off the topic in a conversation named like the client
(`Service.chatAnswers_alone`).  Without this condition others can close its conversation
(`Service.closed_by_others`).
-/

namespace HadithService.Service

variable {source : EditionSource} {model : ModelRequest → ModelReply} {s t : Service}
  {client : String} {now : Instant} {r : Http.Request} {q : ChatQuestion} {a : Appeal}

/-! ### What a client sees of the service -/

/-- Two states say the same of a client and of the conversation that has its name. -/
structure SameFor (client : String) (s t : Service) : Prop where
  settings_eq : s.settings = t.settings
  chatLimiter : s.chatLimiter.SameFor client t.chatLimiter
  offTopic : s.offTopic.SameFor client t.offTopic

namespace SameFor

theorem refl (client : String) (s : Service) :
  s.SameFor client s
  := ⟨rfl, .refl client s.chatLimiter, .refl client s.offTopic⟩

theorem symm (h : s.SameFor client t) :
  t.SameFor client s
  := ⟨h.settings_eq.symm, h.chatLimiter.symm, h.offTopic.symm⟩

theorem trans {u : Service} (h : s.SameFor client t) (h' : t.SameFor client u) :
  s.SameFor client u
  where
    settings_eq := h.settings_eq.trans h'.settings_eq
    chatLimiter := h.chatLimiter.trans h'.chatLimiter
    offTopic := h.offTopic.trans h'.offTopic

theorem dressed (h : s.SameFor client t) (id : String) (response : Http.Response) :
  s.dressed id response = t.dressed id response
  := by
  rw [Service.dressed, Service.dressed, sharing, sharing, h.settings_eq]

/-- A request gets the same answer in the end if it is handled alike. -/
theorem settle (h : s.SameFor client t) (model : ModelRequest → ModelReply) (now : Instant)
    (handling : Handling) :
  s.settle model now handling = t.settle model now handling
  := by
  cases handling with
  | answered response => rfl
  | pending p => apply h.dressed

/-! ### Questions of the client -/

/-- A question that goes by its client is answered alike. -/
theorem hear (h : s.SameFor client t) (now : Instant) (hadith question : String)
    (history : List Json) :
  (s.hear now client hadith question history).1 = (t.hear now client hadith question history).1 ∧
    (s.hear now client hadith question history).2.SameFor client
      (t.hear now client hadith question history).2
  := by
  rw [Service.hear, Service.hear, h.offTopic.isClosed now]
  split
  · exact ⟨rfl, h⟩
  · split
    · exact ⟨rfl, h⟩
    · have hstrike := h.offTopic.record_fst now
      constructor
      · simp only [hstrike]
      · exact ⟨h.settings_eq, h.chatLimiter, h.offTopic.record now⟩

theorem considerChat (h : s.SameFor client t) (now : Instant)
    (hr : Errand.ofRequest? r = some .chat)
    (hq : ∀ q, ChatQuestion.ofRequest? r = some q → q.client = client ∧ q.session = client) :
  (s.considerChat now r).1 = (t.considerChat now r).1 ∧
    (s.considerChat now r).2.SameFor client (t.considerChat now r).2
  := by
  cases hquestion : ChatQuestion.ofRequest? r with
  | none =>
    obtain ⟨hmethod, hpath⟩ := errand_route hr
    obtain ⟨response, -, hverdict⟩ := considerChat_of_none hmethod hpath hquestion
    rw [hverdict s now, hverdict t now]
    exact ⟨rfl, h⟩
  | some q =>
    obtain ⟨rfl, hsession⟩ := hq q hquestion
    rw [considerChat_of_some hquestion, considerChat_of_some hquestion]
    simp only [h.chatLimiter.check_fst now]
    have hcounted : SameFor q.client
        { s with chatLimiter := (s.chatLimiter.check q.client now).2 }
        { t with chatLimiter := (t.chatLimiter.check q.client now).2 } :=
      ⟨h.settings_eq, h.chatLimiter.check now, h.offTopic⟩
    split
    · rw [hsession]
      apply hcounted.hear
    · exact ⟨rfl, hcounted.settings_eq, hcounted.chatLimiter, hcounted.offTopic⟩

/-- A question that goes by its client is handled alike. -/
theorem receive (h : s.SameFor client t) (source : EditionSource) (now : Instant)
    (hr : Errand.ofRequest? r = some .chat)
    (hq : ∀ q, ChatQuestion.ofRequest? r = some q → q.client = client ∧ q.session = client) :
  (s.receive source now r).1 = (t.receive source now r).1 ∧
    (s.receive source now r).2.2.SameFor client (t.receive source now r).2.2
  := by
  obtain ⟨hverdict, hstate⟩ := h.considerChat now hr hq
  rw [receive_of_errand source hr, receive_of_errand source hr, consider, consider]
  generalize s.considerChat now r = v at hverdict hstate
  generalize t.considerChat now r = w at hverdict hstate
  obtain ⟨verdict, s'⟩ := v
  obtain ⟨verdict', t'⟩ := w
  obtain rfl : verdict = verdict' := hverdict
  cases verdict with
  | answered response =>
    have hconcluded : SameFor client (s'.conclude .chat r.arrival now response)
        (t'.conclude .chat r.arrival now response) :=
      ⟨hstate.settings_eq, hstate.chatLimiter, hstate.offTopic⟩
    exact ⟨congrArg Handling.answered (hconcluded.dressed _ _), hconcluded⟩
  | asking request => exact ⟨rfl, hstate⟩

end SameFor

/-! ### What others do -/

/-- The limiter of questions is told of questions only. -/
theorem receive_chatLimiter (source : EditionSource) (s : Service) (now : Instant)
    (r : Http.Request) :
  (s.receive source now r).2.2.chatLimiter =
    match ChatQuestion.ofRequest? r with
    | none => s.chatLimiter
    | some q => (s.chatLimiter.check q.client now).2
  := by
  have hlimiter := after_limiter source s .chat now (.request r)
  cases hquestion : ChatQuestion.ofRequest? r with
  | some q =>
    have hchecks := checks_of_some now (appeal_eq_question_iff.mpr hquestion)
    rw [Appeal.errand, Appeal.client] at hchecks
    rw [hchecks] at hlimiter
    apply hlimiter
  | none =>
    have hchecks : checks .chat [(now, .request r)] = [] := by
      cases happeal : Appeal.ofRequest? r with
      | none => apply checks_of_none .chat now happeal
      | some a =>
        apply checks_of_ne now happeal
        cases a with
        | explanation client hadith => exact Errand.noConfusion
        | question q => cases hquestion.symm.trans (appeal_eq_question_iff.mp happeal)
    rw [hchecks] at hlimiter
    apply hlimiter

/-- A request leaves the strikes as they are unless it is a question that is heard and does not
belong to its conversation. -/
theorem receive_offTopic_cases (source : EditionSource) (s : Service) (now : Instant)
    (r : Http.Request) :
  (s.receive source now r).2.2.offTopic = s.offTopic ∨
    ∃ q, s.hears? now r = some q ∧ q.isRelevant = false ∧
      (s.receive source now r).2.2.offTopic = (s.offTopic.record q.session now).2
  := by
  cases hhears : s.hears? now r with
  | none => exact .inl (receive_offTopic source hhears)
  | some q =>
    cases hclosed : s.offTopic.isClosed q.session now with
    | true => exact .inl (receive_of_closed source hhears hclosed).2
    | false =>
      cases hrelevant : q.isRelevant with
      | true => exact .inl (receive_of_relevant source hhears hclosed hrelevant).2
      | false =>
        right
        use q, rfl, hrelevant
        apply (receive_of_strike source hhears hclosed hrelevant).2

/-- A request that is no question makes no difference to the client. -/
theorem SameFor.of_no_question (source : EditionSource) (s : Service) (client : String)
    (now : Instant) (h : ChatQuestion.ofRequest? r = none) :
  s.SameFor client (s.receive source now r).2.2
  where
    settings_eq := (receive_settings source s now r).symm
    chatLimiter := by
      rw [receive_chatLimiter, h]
      apply RateLimiter.SameFor.refl
    offTopic := by
      have hnot : s.hears? now r = none := by
        rw [hears?, h]
        rfl
      rw [receive_offTopic source hnot]
      apply OffTopicTracker.SameFor.refl

/-- A request of somebody else makes no difference to the client unless it is heard as a question
off the topic in the conversation named like the client. -/
theorem SameFor.of_other (source : EditionSource) (s : Service) (now : Instant)
    (hother : Http.clientOf r.headers r.peer ≠ client)
    (hquestion : ∀ q, s.hears? now r = some q → q.session = client → q.isRelevant = true) :
  s.SameFor client (s.receive source now r).2.2
  where
    settings_eq := (receive_settings source s now r).symm
    chatLimiter := by
      rw [receive_chatLimiter]
      cases hq : ChatQuestion.ofRequest? r with
      | none => apply RateLimiter.SameFor.refl
      | some q =>
        rw [← question_client hq] at hother
        apply RateLimiter.SameFor.check_of_ne s.chatLimiter hother now
    offTopic := by
      rcases receive_offTopic_cases source s now r with hsame | ⟨q, hhears, hstrayed, hstrike⟩
      · rw [hsame]
        apply OffTopicTracker.SameFor.refl
      · rw [hstrike]
        apply OffTopicTracker.SameFor.record_of_ne
        intro hsession
        cases hstrayed.symm.trans (hquestion q hhears hsession)

/-! ### Runs -/

theorem sessionOf_none (client : String) :
  Chat.sessionOf none client = client
  := by
  have hempty : (Text.sanitize Chat.sessionLimit "").isEmpty = true := by decide
  rw [Chat.sessionOf, Option.getD_none]
  apply if_pos hempty

/-- A question that names no conversation goes by its client. -/
theorem session_of_unnamed (h : namesNoSession r = true)
    (hq : ChatQuestion.ofRequest? r = some q) :
  q.session = q.client
  := by
  rw [ChatQuestion.ofRequest?] at hq
  split at hq
  · cases hbody : Input.ofBody Input.Chat.decoder r with
    | error e =>
      rw [hbody] at hq
      cases hq
    | ok input =>
      rw [namesNoSession, hbody] at h
      have hunnamed : input.session = none := Option.isNone_iff_eq_none.mp h
      simp only [hbody, hunnamed, sessionOf_none] at hq
      split at hq
      · cases hq
      · obtain rfl := Option.some.inj hq
        rfl
  · cases hq

/-- A request of the client itself. -/
theorem SameFor.own (h : s.SameFor client t) (source : EditionSource)
    (model : ModelRequest → ModelReply) (now : Instant)
    (hclient : Http.clientOf r.headers r.peer = client) (hunnamed : namesNoSession r = true) :
  s.chatAnswer? source model client now (.request r)
      = t.chatAnswer? source model client now (.request r) ∧
    (s.after source now (.request r)).SameFor client (t.after source now (.request r))
  := by
  rw [chatAnswer?, chatAnswer?, after, after]
  by_cases hr : Errand.ofRequest? r = some .chat
  · have hq : ∀ q, ChatQuestion.ofRequest? r = some q → q.client = client ∧ q.session = client := by
      intro q hquestion
      have hown := (question_client hquestion).trans hclient
      use hown, (session_of_unnamed hunnamed hquestion).trans hown
    obtain ⟨hhandling, hstate⟩ := h.receive source now hr hq
    rw [if_pos ⟨hr, hclient⟩, if_pos ⟨hr, hclient⟩, hhandling, h.settle]
    exact ⟨rfl, hstate⟩
  · have hnot : ChatQuestion.ofRequest? r = none := by
      apply Option.eq_none_iff_forall_ne_some.mpr
      intro q hquestion
      apply hr (errand_of_question hquestion)
    rw [if_neg (fun hand => hr hand.1), if_neg (fun hand => hr hand.1)]
    have hs := SameFor.of_no_question source s client now hnot
    have ht := SameFor.of_no_question source t client now hnot
    exact ⟨rfl, (hs.symm.trans h).trans ht⟩

theorem SameFor.prune (h : s.SameFor client t) (now : Instant) :
  (s.prune now).2.SameFor client (t.prune now).2
  := ⟨h.settings_eq, h.chatLimiter.prune now, h.offTopic.prune now⟩

theorem SameFor.of_reply (client : String) (s : Service) (p : Pending) (reply : ModelReply)
    (now : Instant) :
  s.SameFor client (s.resume p reply now).2
  := ⟨rfl, .refl client s.chatLimiter, .refl client s.offTopic⟩

theorem mem_requestsOf_self {events : List (Instant × ServiceEvent)}
    (h : Http.clientOf r.headers r.peer = client) :
  r ∈ requestsOf client ((now, .request r) :: events)
  := by
  simp [requestsOf, h]

theorem mem_requestsOf_cons {event : Instant × ServiceEvent}
    {events : List (Instant × ServiceEvent)} (h : r ∈ requestsOf client events) :
  r ∈ requestsOf client (event :: events)
  := by
  obtain ⟨e, he, hr⟩ := List.mem_filterMap.mp h
  apply List.mem_filterMap.mpr
  use e, List.mem_cons_of_mem event he, hr

/-- The client is answered alike in two states that say the same of it when events are left out that
make no difference to it: all requests of others, and any replies. -/
theorem chatAnswers_filter {keep : Instant × ServiceEvent → Bool}
    {events : List (Instant × ServiceEvent)}
    (hrequest : ∀ now r, keep (now, .request r) = (Http.clientOf r.headers r.peer == client))
    (hsweep : ∀ now, keep (now, .sweep) = true) (h : s.SameFor client t)
    (hunnamed : ∀ r ∈ requestsOf client events, namesNoSession r = true)
    (hothers : ∀ b ∈ s.questions source events,
      b.2.client ≠ client → b.2.session = client → b.2.isRelevant = true) :
  s.chatAnswers source model client events = t.chatAnswers source model client (events.filter keep)
  := by
  induction events generalizing s t with
  | nil => rfl
  | cons event events ih =>
    obtain ⟨now, event⟩ := event
    have hrest : ∀ {t' : Service}, (s.after source now event).SameFor client t' →
        (s.after source now event).chatAnswers source model client events
          = t'.chatAnswers source model client (events.filter keep) := by
      intro t' h'
      apply ih h'
      · intro r hmem
        apply hunnamed r (mem_requestsOf_cons hmem)
      · intro b hb
        apply hothers b (List.mem_append_right _ hb)
    rw [chatAnswers, List.filter_cons]
    cases event with
    | request r =>
      rw [hrequest]
      by_cases hclient : Http.clientOf r.headers r.peer = client
      · obtain ⟨hanswer, hstate⟩ :=
          h.own source model now hclient (hunnamed r (mem_requestsOf_self hclient))
        rw [if_pos (beq_iff_eq.mpr hclient), chatAnswers, hanswer, hrest hstate]
      · -- the request is left out of the other run, whose state stays what it was
        have hquestion : ∀ q, s.hears? now r = some q → q.session = client →
            q.isRelevant = true := by
          intro q hhears
          have hother : q.client ≠ client := by
            rw [question_client (Option.filter_eq_some_iff.mp hhears).1]
            apply hclient
          apply hothers (now, q) _ hother
          rw [questions, heard?, hhears]
          apply List.mem_cons_self
        have hstate := SameFor.of_other source s now hclient hquestion
        rw [if_neg (by simpa using hclient), chatAnswer?, if_neg (fun hand => hclient hand.2),
          hrest (hstate.symm.trans h)]
        rfl
    | reply p reply =>
      have hstate := (SameFor.of_reply client s p reply now).symm.trans h
      split
      · rw [chatAnswers, hrest (hstate.trans (.of_reply client t p reply now))]
        rfl
      · rw [hrest hstate]
        rfl
    | sweep =>
      rw [hsweep, if_pos rfl, chatAnswers, hrest (h.prune now)]
      rfl

/-- A client whose questions name no conversation gets the answers that it would get if it were the
only client, unless somebody else is heard with a question off the topic in a conversation that is
named like the client. -/
theorem chatAnswers_alone (source : EditionSource) (model : ModelRequest → ModelReply) (s : Service)
    (client : String) (events : List (Instant × ServiceEvent))
    (hunnamed : ∀ r ∈ requestsOf client events, namesNoSession r = true)
    (hothers : ∀ b ∈ s.questions source events,
      b.2.client ≠ client → b.2.session = client → b.2.isRelevant = true) :
  s.chatAnswers source model client events
    = s.chatAnswers source model client (alone client events)
  := by
  apply chatAnswers_filter _ _ (.refl client s) hunnamed hothers
  · intro now r
    rfl
  · intro now
    rfl

/-- A question that a client asks. -/
def askedBy (client body : String) : Http.Request :=
  { posted "/api/chat" body with
    headers := [⟨"content-type", "application/json"⟩, ⟨"x-forwarded-for", client⟩] }

/-- A client asks a question while another one strays in a conversation of its own. -/
def neighbours : List (Instant × ServiceEvent) :=
  [(0, .request (askedBy "10.0.0.2" "[\"h\",\"2+2\",null,\"s\"]")),
   (1, .request (askedBy "10.0.0.2" "[\"h\",\"explain\",null,\"10.0.0.1\"]")),
   (2, .request (askedBy "10.0.0.1" "[\"h\",\"2+2\"]")),
   (3, .sweep),
   (4, .request (askedBy "10.0.0.1" "[\"h\",\"explain\"]"))]

theorem chatAnswers_neighbours :
  let source : EditionSource := fun _ => ⟨0, .error .request⟩
  let model : ModelRequest → ModelReply := fun _ => .ok "a"
  let s := new .default true
  s.chatAnswers source model "10.0.0.1" neighbours
      = s.chatAnswers source model "10.0.0.1" (alone "10.0.0.1" neighbours) ∧
    (s.chatAnswers source model "10.0.0.1" neighbours).map Http.Response.status = [400, 200]
  := by
  intro source model s
  constructor
  · apply chatAnswers_alone source model s "10.0.0.1" neighbours
    · decide +kernel
    · decide +kernel
  · decide +kernel

/-- A client asks a question after another one has strayed in a conversation named like the first
client. -/
def intrusion : List (Instant × ServiceEvent) :=
  [(0, .request (askedBy "10.0.0.2" "[\"h\",\"2+2\",null,\"10.0.0.1\"]")),
   (1, .request (askedBy "10.0.0.2" "[\"h\",\"2+2\",null,\"10.0.0.1\"]")),
   (2, .request (askedBy "10.0.0.2" "[\"h\",\"2+2\",null,\"10.0.0.1\"]")),
   (3, .request (askedBy "10.0.0.1" "[\"h\",\"explain\"]"))]

/-- Others can close the conversation of a client whose questions name none. -/
theorem closed_by_others :
  let source : EditionSource := fun _ => ⟨0, .error .request⟩
  let model : ModelRequest → ModelReply := fun _ => .ok "a"
  let s := new .default true
  (∀ r ∈ requestsOf "10.0.0.1" intrusion, namesNoSession r = true) ∧
    (s.chatAnswers source model "10.0.0.1" intrusion).map Http.Response.status = [400] ∧
    (s.chatAnswers source model "10.0.0.1" (alone "10.0.0.1" intrusion)).map Http.Response.status
      = [200]
  := by
  intro source model s
  use (by decide +kernel), (by decide +kernel)
  decide +kernel

end HadithService.Service
