import HadithService.Proofs.Limits.Strikes
import HadithService.Proofs.Metrics
import HadithService.Proofs.Service.Quotas
import Mathlib.Algebra.Ring.Nat

/-!
# The metrics add up

Whatever happens to the service comes to one of six things (`Service.Entry`): nothing that is
counted, an answer, the denial of an appeal, a strike, a request that has to wait for the model, or
the answer to one that has.  Each of them balances what is counted against what was handled and
answered (`Service.Balanced`), and so does every run, from which the sums of the metrics are read off
once no request is in progress (`Service.metrics_add_up`).
-/

namespace HadithService.Service

variable {source : EditionSource} {s t : Service} {now : Instant} {r : Http.Request}
  {e : Errand} {endpoint : Endpoint} {a : Appeal} {q : ChatQuestion} {p : Pending}
  {response : Http.Response} {request : ModelRequest} {o : Occasion} {occasions : List Occasion}
  {handled handled' : List Endpoint} {answers answers' : List (Endpoint × Http.Response)}
  {waiting waiting' replied replied' : List Pending} {closed closed' : List String}
  {events events' : List MetricsEvent}

/-! ### What an occasion comes to -/

/-- What an occasion comes to: the endpoint that handles a request, the answers that are given, the
requests that have to wait for the model, those for which it replies, the conversations that are
closed, and what is counted. -/
inductive Entry : Option Endpoint → List (Endpoint × Http.Response) → List Pending →
    Option Pending → List String → List MetricsEvent → Prop where
  | silent : Entry none [] [] none [] []
  | answered (endpoint : Endpoint) (response : Http.Response) (micros : Nat) :
    Entry (some endpoint) [(endpoint, response)] [] none []
      [.timed endpoint micros, .request response.isSuccess]
  | denied (endpoint : Endpoint) (response : Http.Response) (micros : Nat)
    (hfailed : response.isSuccess = false) :
    Entry (some endpoint) [(endpoint, response)] [] none []
      [.rateLimited, .timed endpoint micros, .request response.isSuccess]
  | struck (response : Http.Response) (micros : Nat) (session : String) (isClosing : Bool)
    (hfailed : response.isSuccess = false) :
    Entry (some .chat) [(.chat, response)] [] none (if isClosing then [session] else [])
      [.offTopic isClosing, .timed .chat micros, .request response.isSuccess]
  | asked (p : Pending) : Entry (some p.errand.endpoint) [] [p] none [] []
  | replied (p : Pending) (response : Http.Response) (micros : Nat) :
    Entry none [(p.errand.endpoint, response)] [] (some p) []
      [.timed p.errand.endpoint micros, .request response.isSuccess]

/-- What happens on an occasion comes to something that counts certain events. -/
def Enters (s : Service) (o : Occasion) (events : List MetricsEvent) : Prop :=
  Entry o.endpoint? (s.answersIn o) (s.waitingFrom o) o.replied? (s.closedIn o) events ∧
    (s.meet o).metrics = s.metrics.recordAll events

theorem Entry.enters {endpoint? : Option Endpoint}
    (h : Entry endpoint? answers waiting none closed events)
    (hendpoint : Endpoint.ofRequest? r = endpoint?)
    (hanswers : s.answersIn ⟨source, now, .request r⟩ = answers)
    (hwaiting : s.waitingFrom ⟨source, now, .request r⟩ = waiting)
    (hclosed : s.closedIn ⟨source, now, .request r⟩ = closed)
    (hmetrics : (s.receive source now r).2.2.metrics = s.metrics.recordAll events) :
  s.Enters ⟨source, now, .request r⟩ events
  := by
  subst hendpoint hanswers hwaiting hclosed
  exact ⟨h, hmetrics⟩

theorem answersIn_of_answered (hendpoint : Endpoint.ofRequest? r = some endpoint)
    (h : (s.receive source now r).1 = .answered response) :
  s.answersIn ⟨source, now, .request r⟩ = [(endpoint, response)] ∧
    s.waitingFrom ⟨source, now, .request r⟩ = []
  := by
  simp only [answersIn, waitingFrom, hendpoint, h, and_self]

theorem closedIn_of_unheard (h : s.hears? now r = none) :
  s.closedIn ⟨source, now, .request r⟩ = []
  := by
  simp only [closedIn, heard?, h]

/-- A question leaves a conversation that is closed, or that it leaves as it was. -/
theorem closedIn_of_same (h : s.hears? now r = some q)
    (hsame : (s.receive source now r).2.2.offTopic = s.offTopic) :
  s.closedIn ⟨source, now, .request r⟩ = []
  := by
  have hafter : (s.meet ⟨source, now, .request r⟩).offTopic = s.offTopic := hsame
  simp only [closedIn, heard?, h, hafter, Bool.not_and_self, Bool.false_eq_true, if_false]

theorem enters_of_answered {micros : Nat} (hendpoint : Endpoint.ofRequest? r = some endpoint)
    (h : (s.receive source now r).1 = .answered response)
    (hclosed : s.closedIn ⟨source, now, .request r⟩ = [])
    (hmetrics : (s.receive source now r).2.2.metrics
      = s.metrics.recordAll [.timed endpoint micros, .request response.isSuccess]) :
  s.Enters ⟨source, now, .request r⟩ [.timed endpoint micros, .request response.isSuccess]
  := by
  obtain ⟨hanswers, hwaiting⟩ := answersIn_of_answered hendpoint h
  exact (Entry.answered endpoint response micros).enters hendpoint hanswers hwaiting hclosed hmetrics

/-! ### Requests for the assistant -/

theorem endpoint_of_errand (h : Errand.ofRequest? r = some e) :
  Endpoint.ofRequest? r = some e.endpoint
  := by
  rw [Endpoint.ofRequest?, h]

/-- A request for the assistant that is answered at once is counted as it is answered. -/
theorem receive_counted (source : EditionSource) (h : Errand.ofRequest? r = some e)
    (hverdict : s.consider now r e = (.answered response, t)) :
  ∃ sent micros, (s.receive source now r).1 = .answered sent ∧
    sent.isSuccess = response.isSuccess ∧
    (s.receive source now r).2.2.metrics
      = t.metrics.recordAll [.timed e.endpoint micros, .request sent.isSuccess]
  := by
  obtain ⟨hmethod, -⟩ := errand_route h
  rw [receive_of_errand source h, hverdict]
  simp only [follow, finished, hmethod]
  exact ⟨_, _, rfl, rfl, rfl⟩

/-- The service hears nothing in a request that is no question. -/
theorem hears?_of_no_question (h : ∀ q, Appeal.ofRequest? r ≠ some (.question q)) :
  s.hears? now r = none
  := by
  cases hquestion : ChatQuestion.ofRequest? r with
  | none => rw [hears?, hquestion, Option.filter_none]
  | some q => cases h q (appeal_eq_question_iff.mpr hquestion)

/-- A request that is no appeal is answered. -/
theorem enters_of_unread (source : EditionSource) (s : Service) (now : Instant)
    (h : Errand.ofRequest? r = some e) (hnone : Appeal.ofRequest? r = none) :
  ∃ events, s.Enters ⟨source, now, .request r⟩ events
  := by
  obtain ⟨response, -, hverdict⟩ := consider_of_none h hnone
  obtain ⟨sent, micros, hsent, -, hmetrics⟩ := receive_counted source h (hverdict s now)
  have hunheard : s.hears? now r = none := by
    apply hears?_of_no_question
    rw [hnone]
    rintro _ ⟨⟩
  exact ⟨_, enters_of_answered (endpoint_of_errand h) hsent (closedIn_of_unheard hunheard) hmetrics⟩

@[simp]
theorem charge_metrics (s : Service) (now : Instant) (a : Appeal) :
  (s.charge now a).metrics = s.metrics
  := by
  rw [charge_eq]

theorem hears?_of_question (h : Appeal.ofRequest? r = some (.question q)) :
  s.hears? now r = if (s.chatLimiter.check q.client now).1 then some q else none
  := by
  rw [hears?, appeal_eq_question_iff.mp h, Option.filter_some]

theorem hears?_of_explanation {client hadith : String}
    (h : Appeal.ofRequest? r = some (.explanation client hadith)) :
  s.hears? now r = none
  := by
  apply hears?_of_no_question
  rw [h]
  rintro _ ⟨⟩

/-- An appeal that its limiter does not allow is denied. -/
theorem enters_of_denied (source : EditionSource) (h : Appeal.ofRequest? r = some a)
    (hdenied : ¬ ((s.limiter a.errand).check a.client now).1 = true) :
  ∃ events, s.Enters ⟨source, now, .request r⟩ events
  := by
  have herrand := (appeal_of_request h).1
  have hverdict := consider_of_some s now h
  rw [if_neg hdenied] at hverdict
  obtain ⟨sent, micros, hsent, hsuccess, hmetrics⟩ := receive_counted source herrand hverdict
  have hfailed : sent.isSuccess = false := by
    rw [hsuccess]
    cases a with
    | explanation => rfl
    | question => rfl
  have hunheard : s.hears? now r = none := by
    cases a with
    | explanation => apply hears?_of_explanation h
    | question q =>
      rw [hears?_of_question h]
      exact if_neg hdenied
  obtain ⟨hanswers, hwaiting⟩ := answersIn_of_answered (endpoint_of_errand herrand) hsent
  rw [count, charge_metrics] at hmetrics
  exact ⟨_, (Entry.denied a.errand.endpoint sent micros hfailed).enters (endpoint_of_errand herrand)
    hanswers hwaiting (closedIn_of_unheard hunheard) hmetrics⟩

/-- An appeal that goes to the model has to wait, and nothing is counted yet. -/
theorem enters_of_asking (source : EditionSource) (h : Appeal.ofRequest? r = some a)
    (hverdict : s.consider now r a.errand = (.asking request, t)) (hmetrics : t.metrics = s.metrics)
    (hclosed : s.closedIn ⟨source, now, .request r⟩ = []) :
  s.Enters ⟨source, now, .request r⟩ []
  := by
  have herrand := (appeal_of_request h).1
  obtain ⟨hpending, hstate⟩ := receive_of_asking source herrand hverdict
  have hanswers : s.answersIn ⟨source, now, .request r⟩ = [] := by
    simp only [answersIn, hpending, endpoint_of_errand herrand]
  have hwaiting : s.waitingFrom ⟨source, now, .request r⟩
      = [⟨r.id, a.errand, r.arrival, request⟩] := by
    simp only [waitingFrom, hpending]
  apply (Entry.asked _).enters (endpoint_of_errand herrand) hanswers hwaiting hclosed
  rw [hstate, hmetrics]
  rfl

/-- A question in a closed conversation is answered with the closure, and closes nothing. -/
theorem enters_of_closed (source : EditionSource) (h : Appeal.ofRequest? r = some (.question q))
    (hheard : s.hears? now r = some q)
    (hverdict : s.consider now r .chat = (s.charge now (.question q)).proceed now (.question q))
    (hclosed : s.offTopic.isClosed q.session now = true) :
  ∃ events, s.Enters ⟨source, now, .request r⟩ events
  := by
  have htracker := charge_offTopic s now (.question q)
  rw [proceed_of_closed (htracker ▸ hclosed)] at hverdict
  have herrand := (appeal_of_request h).1
  obtain ⟨sent, micros, hsent, -, hmetrics⟩ := receive_counted source herrand hverdict
  rw [charge_metrics] at hmetrics
  have hsame := closedIn_of_same hheard (receive_of_closed source hheard hclosed).2
  exact ⟨_, enters_of_answered (endpoint_of_errand herrand) hsent hsame hmetrics⟩

/-- A question that does not belong to its open conversation is a strike, which may close it. -/
theorem enters_of_strike (source : EditionSource) (h : Appeal.ofRequest? r = some (.question q))
    (hheard : s.hears? now r = some q)
    (hverdict : s.consider now r .chat = (s.charge now (.question q)).proceed now (.question q))
    (hopen : s.offTopic.isClosed q.session now = false) (hstrayed : q.isRelevant = false) :
  ∃ events, s.Enters ⟨source, now, .request r⟩ events
  := by
  have htracker := charge_offTopic s now (.question q)
  rw [proceed_of_strayed (htracker ▸ hopen) hstrayed, htracker] at hverdict
  have herrand := (appeal_of_request h).1
  obtain ⟨sent, micros, hsent, hsuccess, hmetrics⟩ := receive_counted source herrand hverdict
  have hfailed : sent.isSuccess = false := by
    rw [hsuccess, Http.Response.isSuccess, strikeResponse_status]
    rfl
  obtain ⟨hanswers, hwaiting⟩ := answersIn_of_answered (endpoint_of_errand herrand) hsent
  have hafter : (s.meet ⟨source, now, .request r⟩).offTopic
      = (s.offTopic.record q.session now).2 := (receive_of_strike source hheard hopen hstrayed).2
  have hclosed : s.closedIn ⟨source, now, .request r⟩
      = if (s.offTopic.record q.session now).1.shouldClose then [q.session] else [] := by
    simp only [closedIn, heard?, hheard, hafter, hopen, OffTopicTracker.isClosed_record,
      Bool.not_false, Bool.true_and]
  rw [count, charge_metrics] at hmetrics
  exact ⟨_, (Entry.struck sent micros q.session _ hfailed).enters (endpoint_of_errand herrand)
    hanswers hwaiting hclosed hmetrics⟩

/-- An appeal that its limiter allows. -/
theorem enters_of_allowed (source : EditionSource) (h : Appeal.ofRequest? r = some a)
    (hallowed : ((s.limiter a.errand).check a.client now).1 = true) :
  ∃ events, s.Enters ⟨source, now, .request r⟩ events
  := by
  have hverdict := consider_of_some s now h
  rw [if_pos hallowed] at hverdict
  cases a with
  | explanation client hadith =>
    use []
    apply enters_of_asking source h hverdict (charge_metrics s now _)
    apply closedIn_of_unheard (hears?_of_explanation h)
  | question q =>
    have hheard : s.hears? now r = some q := by
      rw [hears?_of_question h]
      exact if_pos hallowed
    cases hclosed : s.offTopic.isClosed q.session now with
    | true => apply enters_of_closed source h hheard hverdict hclosed
    | false =>
      cases hrelevant : q.isRelevant with
      | false => apply enters_of_strike source h hheard hverdict hclosed hrelevant
      | true =>
        have hopen : (s.charge now (.question q)).isOpenTo now (.question q) = true := by
          rw [isOpenTo_charge, isOpenTo, hclosed, hrelevant]
          rfl
        rw [proceed_of_open hopen] at hverdict
        use []
        apply enters_of_asking source h hverdict (charge_metrics s now _)
        apply closedIn_of_same hheard (receive_of_relevant source hheard hclosed hrelevant).2

theorem enters_of_errand (source : EditionSource) (s : Service) (now : Instant)
    (h : Errand.ofRequest? r = some e) :
  ∃ events, s.Enters ⟨source, now, .request r⟩ events
  := by
  cases happeal : Appeal.ofRequest? r with
  | none => apply enters_of_unread source s now h happeal
  | some a =>
    by_cases hallowed : ((s.limiter a.errand).check a.client now).1 = true
    · apply enters_of_allowed source happeal hallowed
    · apply enters_of_denied source happeal hallowed

/-! ### Everything else -/

theorem hears?_of_no_errand (h : Errand.ofRequest? r = none) :
  s.hears? now r = none
  := by
  apply hears?_of_no_question
  intro q hquestion
  rw [(appeal_of_request hquestion).1] at h
  cases h

/-- A request that no endpoint handles is answered without being counted. -/
theorem enters_of_uncounted (source : EditionSource) (hnone : Endpoint.ofRequest? r = none)
    (h : Errand.ofRequest? r = none) (hmetrics : (s.receive source now r).2.2.metrics = s.metrics) :
  s.Enters ⟨source, now, .request r⟩ []
  := by
  obtain ⟨⟨response, hanswered⟩, -⟩ := receive_of_no_errand source s now h
  have hanswers : s.answersIn ⟨source, now, .request r⟩ = [] := by
    simp only [answersIn, hnone]
  have hwaiting : s.waitingFrom ⟨source, now, .request r⟩ = [] := by
    simp only [waitingFrom, hanswered]
  apply Entry.silent.enters hnone hanswers hwaiting _ hmetrics
  apply closedIn_of_unheard (hears?_of_no_errand h)

theorem answerSearch_counted (source : EditionSource) (s : Service) (now : Instant)
    {query : Search.Query} (hquery : Input.search r.target.query = .ok query) :
  ∃ response calls t micros, s.answerSearch source now r = (response, calls, t) ∧
    t.metrics = s.metrics.recordAll [.timed .search micros, .request response.isSuccess]
  := by
  rw [answerSearch, hquery]
  exact ⟨_, _, _, _, rfl, rfl⟩

/-- A search that can be read is counted as it is answered. -/
theorem enters_of_search (source : EditionSource) (s : Service) (now : Instant)
    (h : Errand.ofRequest? r = none)
    (hsearch : (Route.ofPath? r.target.path == some .search
      && Route.search.methods.contains r.method) = true) {query : Search.Query}
    (hquery : Input.search r.target.query = .ok query) :
  ∃ events, s.Enters ⟨source, now, .request r⟩ events
  := by
  have hendpoint : Endpoint.ofRequest? r = some .search := by
    rw [Endpoint.ofRequest?, h]
    simp only [hsearch, if_true, hquery]
  obtain ⟨response, calls, t, micros, hanswer, hmetrics⟩ :=
    answerSearch_counted source s now hquery
  have hreceive := receive_of_search source s now hsearch
  rw [hanswer] at hreceive
  -- the head of an answer is a success exactly if the answer is
  have hsuccess : (t.dressed r.id
      (if r.method == "HEAD" then response.withoutBody else response)).isSuccess
        = response.isSuccess := by
    split
    · rfl
    · rfl
  rw [← hsuccess] at hmetrics
  rw [← congrArg (fun answer => answer.2.2.metrics) hreceive] at hmetrics
  exact ⟨_, enters_of_answered hendpoint (congrArg Prod.fst hreceive)
    (closedIn_of_unheard (hears?_of_no_errand h)) hmetrics⟩

theorem enters_of_no_errand (source : EditionSource) (s : Service) (now : Instant)
    (h : Errand.ofRequest? r = none) :
  ∃ events, s.Enters ⟨source, now, .request r⟩ events
  := by
  by_cases hsearch : (Route.ofPath? r.target.path == some .search
      && Route.search.methods.contains r.method) = true
  · cases hquery : Input.search r.target.query with
    | ok query => apply enters_of_search source s now h hsearch hquery
    | error name =>
      use []
      apply enters_of_uncounted source _ h
      · rw [receive_of_search source s now hsearch, answerSearch, hquery]
      · rw [Endpoint.ofRequest?, h]
        simp only [hsearch, if_true, hquery]
  · use []
    obtain ⟨response, htake⟩ := take_of_plain s now h hsearch
    apply enters_of_uncounted source _ h
    · rw [receive, htake source]
    · rw [Endpoint.ofRequest?, h]
      exact if_neg hsearch

/-- Whatever happens comes to one of the six things. -/
theorem exists_enters (s : Service) (o : Occasion) :
  ∃ events, s.Enters o events
  := by
  obtain ⟨source, now, event⟩ := o
  cases event with
  | request r =>
    cases herrand : Errand.ofRequest? r with
    | none => apply enters_of_no_errand source s now herrand
    | some e => apply enters_of_errand source s now herrand
  | reply p reply =>
    refine ⟨_, .replied p (s.resume p reply now).1 ((now - p.since) / 1000), ?_⟩
    rfl
  | sweep => exact ⟨[], .silent, rfl⟩

/-! ### The balance -/

/-- What was handled, answered, left waiting, replied and closed balances what was counted. -/
structure Balanced (handled : List Endpoint) (answers : List (Endpoint × Http.Response))
    (waiting replied : List Pending) (closed : List String) (events : List MetricsEvent) : Prop where
  requests : events.countP MetricsEvent.isRequest = answers.length
  outcomes : ∀ isSuccess, events.countP (MetricsEvent.isRequestOf isSuccess)
    = answers.countP fun answer => answer.2.isSuccess == isSuccess
  timed : ∀ endpoint, events.countP (MetricsEvent.isTimed endpoint)
    = answers.countP fun answer => answer.1 == endpoint
  refused : events.countP MetricsEvent.isRateLimited + events.countP MetricsEvent.isOffTopic
    ≤ events.countP (MetricsEvent.isRequestOf false)
  closings : events.countP MetricsEvent.isClosing = closed.length
  served : ∀ endpoint, (answers.countP fun answer => answer.1 == endpoint)
      + waiting.countP (fun p => p.errand.endpoint == endpoint)
    = handled.count endpoint + replied.countP fun p => p.errand.endpoint == endpoint

namespace Balanced

theorem nil :
  Balanced [] [] [] [] [] []
  where
    requests := rfl
    outcomes _ := rfl
    timed _ := rfl
    refused := Nat.le_refl 0
    closings := rfl
    served _ := rfl

theorem append (h : Balanced handled answers waiting replied closed events)
    (h' : Balanced handled' answers' waiting' replied' closed' events') :
  Balanced (handled ++ handled') (answers ++ answers') (waiting ++ waiting') (replied ++ replied')
    (closed ++ closed') (events ++ events')
  where
    requests := by
      rw [List.countP_append, List.length_append, h.requests, h'.requests]
    outcomes isSuccess := by
      rw [List.countP_append, List.countP_append, h.outcomes, h'.outcomes]
    timed endpoint := by
      rw [List.countP_append, List.countP_append, h.timed, h'.timed]
    refused := by
      have hle := Nat.add_le_add h.refused h'.refused
      simp only [List.countP_append]
      omega
    closings := by
      rw [List.countP_append, List.length_append, h.closings, h'.closings]
    served endpoint := by
      have hsum := h.served endpoint
      have hsum' := h'.served endpoint
      simp only [List.countP_append, List.count_append]
      omega

end Balanced

theorem Entry.balanced {endpoint? : Option Endpoint} {replied? : Option Pending}
    (h : Entry endpoint? answers waiting replied? closed events) :
  Balanced endpoint?.toList answers waiting replied?.toList closed events
  := by
  cases h with
  | silent => exact .nil
  | answered endpoint response micros =>
    constructor
    all_goals simp [List.countP_cons, List.count_cons]
  | denied endpoint response micros hfailed =>
    constructor
    all_goals simp [List.countP_cons, List.count_cons, hfailed]
  | struck response micros session isClosing hfailed =>
    cases isClosing with
    | false =>
      constructor
      all_goals simp [List.countP_cons, List.count_cons, hfailed]
    | true =>
      constructor
      all_goals simp [List.countP_cons, List.count_cons, hfailed]
  | asked p =>
    constructor
    all_goals simp [List.count_cons]
  | replied p response micros =>
    constructor
    all_goals simp [List.countP_cons]

theorem toList_append_filterMap {α β : Type} (f : α → Option β) (a : α) (l : List α) :
  (f a).toList ++ l.filterMap f = (a :: l).filterMap f
  := by
  rw [List.filterMap_eq_flatMap_toList, List.filterMap_eq_flatMap_toList, List.flatMap_cons]

/-- In every run what was counted balances what happened. -/
theorem exists_balanced (s : Service) (occasions : List Occasion) :
  ∃ events, (s.through occasions).metrics = s.metrics.recordAll events ∧
    Balanced (occasions.filterMap Occasion.endpoint?) (s.gather answersIn occasions)
      (s.gather waitingFrom occasions) (occasions.filterMap Occasion.replied?)
      (s.gather closedIn occasions) events
  := by
  induction occasions generalizing s with
  | nil => exact ⟨[], rfl, .nil⟩
  | cons o occasions ih =>
    obtain ⟨first, hentry, hfirst⟩ := exists_enters s o
    obtain ⟨events, hmetrics, hbalanced⟩ := ih (s.meet o)
    use first ++ events
    constructor
    · rw [through, hmetrics, hfirst, Metrics.recordAll_append]
    · have hall := hentry.balanced.append hbalanced
      rw [toList_append_filterMap, toList_append_filterMap] at hall
      apply hall

/-! ### The sums -/

/-- Everything is for one of the three endpoints. -/
theorem length_eq_sum_countP {α : Type} (f : α → Endpoint) (l : List α) :
  l.length = l.countP (fun x => f x == .search) + l.countP (fun x => f x == .explain)
    + l.countP fun x => f x == .chat
  := by
  induction l with
  | nil => rfl
  | cons x l ih =>
    rw [List.length_cons, ih]
    cases hx : f x with
    | _ =>
      simp [hx]
      omega

/-- There are as many answers for an endpoint as requests that it handled, once no request is in
progress. -/
theorem Balanced.countP_answers (h : Balanced handled answers waiting replied closed events)
    (hquiet : waiting.Perm replied) (endpoint : Endpoint) :
  (answers.countP fun answer => answer.1 == endpoint) = handled.count endpoint
  := by
  have hserved := h.served endpoint
  rw [hquiet.countP_eq] at hserved
  omega

theorem Balanced.length_answers (h : Balanced handled answers waiting replied closed events)
    (hquiet : waiting.Perm replied) :
  answers.length = handled.length
  := by
  rw [length_eq_sum_countP Prod.fst answers, length_eq_sum_countP id handled]
  simp only [h.countP_answers hquiet]
  rfl

/-- Every answer is a success or a failure. -/
theorem Balanced.countP_requests (h : Balanced handled answers waiting replied closed events) :
  events.countP MetricsEvent.isRequest
    = events.countP (MetricsEvent.isRequestOf true) + events.countP (MetricsEvent.isRequestOf false)
  := by
  rw [h.requests, h.outcomes, h.outcomes,
    List.length_eq_countP_add_countP fun answer : Endpoint × Http.Response => answer.2.isSuccess]
  simp

theorem Balanced.countP_outcomes_le (h : Balanced handled answers waiting replied closed events)
    (hquiet : waiting.Perm replied) (isSuccess : Bool) :
  events.countP (MetricsEvent.isRequestOf isSuccess) ≤ handled.length
  := by
  rw [h.outcomes, ← h.length_answers hquiet]
  apply List.countP_le_length

theorem countP_isClosing_le (events : List MetricsEvent) :
  events.countP MetricsEvent.isClosing ≤ events.countP MetricsEvent.isOffTopic
  := by
  apply List.countP_mono_left
  intro e _ h
  cases e with
  | offTopic isClosing => rfl
  | _ => cases h

/-- Once no request is in progress, and as long as fewer have been handled than a word can count, the
total is the number of requests that were handled, and the sum of the successes and failures and of
the counts of the endpoints.  The failures are the answers that are no successes; every denial and
every question off the topic is one of them.  The closed chats are the conversations that were open
before a question and closed after it, each of them for a question off the topic. -/
theorem metrics_add_up (s : Service) (hnew : s.metrics = .zero) (occasions : List Occasion)
    (hquiet : s.IsQuiet occasions)
    (hfew : (occasions.filterMap Occasion.endpoint?).length < 2 ^ 64) :
  let m := (s.through occasions).metrics
  m.total.toNat = (occasions.filterMap Occasion.endpoint?).length ∧
    m.total.toNat = m.successful.toNat + m.failed.toNat ∧
    m.total.toNat = m.search.count.toNat + m.explain.count.toNat + m.chat.count.toNat ∧
    (∀ endpoint, (m.timing endpoint).count.toNat
      = (occasions.filterMap Occasion.endpoint?).count endpoint) ∧
    m.failed.toNat = (s.gather answersIn occasions).countP (fun answer => !answer.2.isSuccess) ∧
    m.rateLimited.toNat + m.offTopic.toNat ≤ m.failed.toNat ∧
    m.closedChats.toNat ≤ m.offTopic.toNat ∧
    m.closedChats.toNat = (s.gather closedIn occasions).length
  := by
  intro m
  obtain ⟨events, hmetrics, hbalanced⟩ := exists_balanced s occasions
  have hcount : ∀ c : Metrics.Counter,
      events.countP c.covers ≤ (occasions.filterMap Occasion.endpoint?).length →
      (c.value m).toNat = events.countP c.covers := by
    intro c hle
    rw [show m = _ from hmetrics, hnew]
    apply c.toNat_value_recordAll (Nat.lt_of_le_of_lt hle hfew)
  have hrequests := hbalanced.requests.trans (hbalanced.length_answers hquiet)
  have hsplit := hbalanced.countP_requests
  have hrefused := hbalanced.refused
  have hfailures := hbalanced.countP_outcomes_le hquiet false
  have hclosing := countP_isClosing_le events
  have htimed : ∀ endpoint, (m.timing endpoint).count.toNat
      = (occasions.filterMap Occasion.endpoint?).count endpoint := by
    intro endpoint
    have hevents := (hbalanced.timed endpoint).trans (hbalanced.countP_answers hquiet endpoint)
    exact (hcount (.timed endpoint)
      (Nat.le_trans (Nat.le_of_eq hevents) List.count_le_length)).trans hevents
  have hdenials : events.countP MetricsEvent.isRateLimited
      ≤ (occasions.filterMap Occasion.endpoint?).length := by omega
  have hstrikes : events.countP MetricsEvent.isOffTopic
      ≤ (occasions.filterMap Occasion.endpoint?).length := by omega
  rw [show m.total.toNat = _ from hcount .requests (Nat.le_of_eq hrequests),
    show m.successful.toNat = _ from
      hcount (.outcomes true) (hbalanced.countP_outcomes_le hquiet true),
    show m.failed.toNat = _ from hcount (.outcomes false) hfailures,
    show m.rateLimited.toNat = _ from hcount .rateLimited hdenials,
    show m.offTopic.toNat = _ from hcount .offTopic hstrikes,
    show m.closedChats.toNat = _ from hcount .closedChats (Nat.le_trans hclosing hstrikes)]
  use hrequests, hsplit
  constructor
  · rw [show m.search.count.toNat = _ from htimed .search,
      show m.explain.count.toNat = _ from htimed .explain,
      show m.chat.count.toNat = _ from htimed .chat]
    exact hrequests.trans (length_eq_sum_countP id _)
  · use htimed
    constructor
    · exact (hbalanced.outcomes false).trans (by simp)
    · exact ⟨hrefused, hclosing, hbalanced.closings⟩

/-- A request for an explanation for which the model does not reply in time, and a question that does
not belong to its conversation. -/
def twoRequests : List Occasion :=
  let source : EditionSource := fun _ => ⟨0, .error .request⟩
  [⟨source, 5, .request (posted "/api/explain" "[\"h\"]")⟩,
   ⟨source, 6, .reply ⟨"1", .explain, 0, Assistant.explainRequest "h"⟩ (.error .timeout)⟩,
   ⟨source, 7, .request (posted "/api/chat" "[\"h\",\"2+2\"]")⟩]

theorem metrics_add_up_two :
  let m := (sparing.through twoRequests).metrics
  m.total.toNat = 2 ∧ m.total.toNat = m.successful.toNat + m.failed.toNat ∧
    m.closedChats.toNat ≤ m.offTopic.toNat
  := by
  have hquiet : sparing.IsQuiet twoRequests := by
    have hwaiting : sparing.gather waitingFrom twoRequests
        = [⟨"1", .explain, 0, Assistant.explainRequest "h"⟩] := rfl
    rw [IsQuiet, hwaiting]
    apply List.Perm.refl
  have hhandled : twoRequests.filterMap Occasion.endpoint? = [.explain, .chat] := by
    decide +kernel
  have hsums := metrics_add_up sparing rfl twoRequests hquiet (by rw [hhandled]; decide)
  rw [hhandled] at hsums
  exact ⟨hsums.1, hsums.2.1, hsums.2.2.2.2.2.2.1⟩

end HadithService.Service
