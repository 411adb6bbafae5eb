import HadithService.Proofs.Service.Appeals

/-!
# What appeals cost

An appeal that is allowed costs its client one unit of the quota of its errand, whatever becomes of
it; nothing else costs anything, and the model is asked only for what has been paid
(`Service.asked_within_quota`).
-/

namespace HadithService.Service

variable {source : EditionSource} {s t : Service} {e : Errand} {now : Instant}
  {r : Http.Request} {a : Appeal} {q : ChatQuestion} {p : Pending} {client : String}

/-! ### Counting an appeal -/

theorem charge_limiter_self (s : Service) (now : Instant) (a : Appeal) :
  (s.charge now a).limiter a.errand = ((s.limiter a.errand).check a.client now).2
  := by
  cases a with
  | explanation client hadith => rfl
  | question q => rfl

theorem charge_limiter_of_ne (s : Service) (now : Instant) (h : e ≠ a.errand) :
  (s.charge now a).limiter e = s.limiter e
  := by
  cases a with
  | explanation client hadith =>
    cases e with
    | explain => contradiction
    | chat => rfl
  | question q =>
    cases e with
    | explain => rfl
    | chat => contradiction

theorem charge_eq (s : Service) (now : Instant) (a : Appeal) :
  s.charge now a = { s with
    explainLimiter := (s.charge now a).explainLimiter
    chatLimiter := (s.charge now a).chatLimiter }
  := by
  cases a with
  | explanation client hadith => rfl
  | question q => rfl

@[simp]
theorem charge_offTopic (s : Service) (now : Instant) (a : Appeal) :
  (s.charge now a).offTopic = s.offTopic
  := by
  rw [charge_eq]

theorem isOpenTo_charge (s : Service) (now : Instant) (a : Appeal) :
  (s.charge now a).isOpenTo now a = s.isOpenTo now a
  := by
  cases a with
  | explanation client hadith => rfl
  | question q => rfl

theorem check_iff (s : Service) (e : Errand) (client : String) (now : Instant) :
  ((s.limiter e).check client now).1 = true ↔ s.used e client now < (s.limiter e).limit
  := by
  rw [RateLimiter.check_fst, decide_eq_true_iff, used]

/-- What an appeal of a client leaves as it was: all but the strikes, the metrics and the counter of
the client for the errand. -/
structure SameBesides (e : Errand) (client : String) (s t : Service) : Prop where
  settings_eq : t.settings = s.settings
  isConfigured_eq : t.isConfigured = s.isConfigured
  store_eq : t.store = s.store
  limiter_eq : ∀ other, other ≠ e → t.limiter other = s.limiter other
  limit_eq : (t.limiter e).limit = (s.limiter e).limit
  window_eq : (t.limiter e).window = (s.limiter e).window
  find?_eq : ∀ key, key ≠ client →
    Counter.find? (t.limiter e).counters key = Counter.find? (s.limiter e).counters key

/-- A state that differs from the one in which an appeal has been counted by strikes and metrics
only. -/
def IsCharged (now : Instant) (a : Appeal) (s t : Service) : Prop :=
  t = { s.charge now a with offTopic := t.offTopic, metrics := t.metrics }

namespace IsCharged

theorem limiter_eq (h : s.IsCharged now a t) (e : Errand) :
  t.limiter e = (s.charge now a).limiter e
  := by
  rw [h]
  cases e with
  | explain => rfl
  | chat => rfl

theorem sameBesides (h : s.IsCharged now a t) :
  s.SameBesides a.errand a.client t
  where
    settings_eq := by rw [h, charge_eq]
    isConfigured_eq := by rw [h, charge_eq]
    store_eq := by rw [h, charge_eq]
    limiter_eq other hne := by rw [h.limiter_eq, charge_limiter_of_ne s now hne]
    limit_eq := by rw [h.limiter_eq, charge_limiter_self, RateLimiter.check_limit]
    window_eq := by rw [h.limiter_eq, charge_limiter_self, RateLimiter.check_window]
    find?_eq key hne := by
      rw [h.limiter_eq, charge_limiter_self]
      apply RateLimiter.find?_check_of_ne _ hne.symm

/-- An appeal that is allowed costs one unit, and one that is denied costs nothing. -/
theorem used_eq (h : s.IsCharged now a t) :
  t.used a.errand a.client now =
    if (s.limiter a.errand).limit ≤ s.used a.errand a.client now
    then s.used a.errand a.client now else s.used a.errand a.client now + 1
  := by
  rw [used, h.limiter_eq, charge_limiter_self, RateLimiter.check_window,
    RateLimiter.current_check_self, RateLimiter.counted]
  split
  · rename_i hfull
    rw [used, if_pos hfull]
  · rename_i hfree
    rw [used, if_neg hfree]

end IsCharged

/-! ### What becomes of a request -/

/-- A request for the assistant that is no appeal is refused and costs nothing. -/
theorem receive_of_unread (source : EditionSource) (h : Errand.ofRequest? r = some e)
    (hnone : Appeal.ofRequest? r = none) :
  let t := (s.receive source now r).2.2
  (s.receive source now r).1.status? = some 400 ∧ t = { s with metrics := t.metrics }
  := by
  obtain ⟨response, hstatus, hverdict⟩ := consider_of_none h hnone
  obtain ⟨hhandling, hstate⟩ := receive_of_answered source h (hverdict s now)
  rw [hhandling, hstate, hstatus]
  constructor
  · rfl
  · rfl

/-- An appeal that is denied. -/
theorem receive_of_denied (source : EditionSource) (h : Appeal.ofRequest? r = some a)
    (hfull : (s.limiter a.errand).limit ≤ s.used a.errand a.client now) :
  let t := (s.receive source now r).2.2
  (s.receive source now r).1.status? = some 429 ∧ s.IsCharged now a t ∧ t.offTopic = s.offTopic
  := by
  have hdenied : ¬ ((s.limiter a.errand).check a.client now).1 = true := by
    rw [check_iff]
    apply Nat.not_lt.mpr hfull
  have hverdict := consider_of_some s now h
  rw [if_neg hdenied] at hverdict
  obtain ⟨hhandling, hstate⟩ := receive_of_answered source (appeal_of_request h).1 hverdict
  have hstatus : a.errand.denial.response.status = 429 := by
    cases a.errand with
    | explain => rfl
    | chat => rfl
  rw [hhandling, hstate, hstatus]
  use rfl, rfl
  apply charge_offTopic

section Allowed

variable (source : EditionSource) (h : Appeal.ofRequest? r = some a)
  (hfree : s.used a.errand a.client now < (s.limiter a.errand).limit)

include h hfree in
theorem consider_of_allowed :
  s.consider now r a.errand = (s.charge now a).proceed now a
  := by
  rw [consider_of_some s now h, if_pos ((check_iff s a.errand a.client now).mpr hfree)]

include h hfree in
/-- An appeal that is allowed and to which the service is open. -/
theorem receive_of_open (hopen : s.isOpenTo now a = true) :
  let t := (s.receive source now r).2.2
  (s.receive source now r).1 = .pending ⟨r.id, a.errand, r.arrival, a.modelRequest⟩ ∧
    s.IsCharged now a t ∧ t.offTopic = s.offTopic
  := by
  have hverdict := consider_of_allowed h hfree
  rw [proceed_of_open ((isOpenTo_charge s now a).trans hopen)] at hverdict
  obtain ⟨hhandling, hstate⟩ := receive_of_asking source (appeal_of_request h).1 hverdict
  rw [hhandling, hstate]
  use rfl, rfl
  apply charge_offTopic

include h hfree in
/-- An appeal that is allowed and to which the service is not open: a question in a conversation
that is closed, or that is not its own. -/
theorem receive_of_not_open (hnot : s.isOpenTo now a = false) :
  let t := (s.receive source now r).2.2
  (s.receive source now r).1.status? = some 400 ∧ s.IsCharged now a t ∧
    ∃ q, a = .question q ∧ t.offTopic =
      if s.offTopic.isClosed q.session now then s.offTopic
      else (s.offTopic.record q.session now).2
  := by
  have hverdict := consider_of_allowed h hfree
  cases a with
  | explanation client hadith => cases hnot
  | question q =>
    -- the strikes are looked at after the question has been counted, which leaves them as they were
    have htracker := charge_offTopic s now (.question q)
    cases hclosed : s.offTopic.isClosed q.session now with
    | true =>
      rw [proceed_of_closed (htracker ▸ hclosed)] at hverdict
      obtain ⟨hhandling, hstate⟩ := receive_of_answered source (appeal_of_request h).1 hverdict
      rw [hhandling, hstate]
      use rfl, rfl, q, rfl
      rw [if_pos hclosed]
      apply htracker
    | false =>
      have hstrayed : q.isRelevant = false := by
        rw [isOpenTo, hclosed] at hnot
        apply hnot
      rw [proceed_of_strayed (s := s.charge now (.question q)) (htracker ▸ hclosed) hstrayed]
        at hverdict
      obtain ⟨hhandling, hstate⟩ := receive_of_answered source (appeal_of_request h).1 hverdict
      rw [hhandling, hstate, strikeResponse_status]
      use rfl, rfl, q, rfl
      rw [if_neg (Bool.eq_false_iff.mp hclosed), ← htracker]
      rfl

end Allowed

theorem receive_of_appeal (source : EditionSource) (h : Appeal.ofRequest? r = some a) :
  s.IsCharged now a (s.receive source now r).2.2
  := by
  by_cases hfree : s.used a.errand a.client now < (s.limiter a.errand).limit
  · cases hopen : s.isOpenTo now a with
    | true => apply (receive_of_open source h hfree hopen).2.1
    | false => apply (receive_of_not_open source h hfree hopen).2.1
  · apply (receive_of_denied source h (Nat.not_lt.mp hfree)).2.1

/-- A request waits for the model exactly if it is an appeal that has been allowed and to which the
service is open. -/
theorem receive_eq_pending_iff (source : EditionSource) :
  (s.receive source now r).1 = .pending p ↔
    ∃ a, Appeal.ofRequest? r = some a ∧
      s.used a.errand a.client now < (s.limiter a.errand).limit ∧ s.isOpenTo now a = true ∧
      p = ⟨r.id, a.errand, r.arrival, a.modelRequest⟩
  := by
  constructor
  · intro hpending
    have hunanswered : ∀ n, (s.receive source now r).1.status? ≠ some n := by
      intro n hstatus
      rw [hpending] at hstatus
      cases hstatus
    cases happeal : Appeal.ofRequest? r with
    | none =>
      cases herrand : Errand.ofRequest? r with
      | none =>
        obtain ⟨response, hanswered⟩ := (receive_of_no_errand source s now herrand).1
        cases hanswered.symm.trans hpending
      | some e =>
        cases hunanswered _ (receive_of_unread source herrand happeal).1
    | some a =>
      use a, rfl
      by_cases hfree : s.used a.errand a.client now < (s.limiter a.errand).limit
      · cases hopen : s.isOpenTo now a with
        | true =>
          have hasked := (receive_of_open source happeal hfree hopen).1
          use hfree, rfl
          apply Handling.pending.inj (hpending.symm.trans hasked)
        | false => cases hunanswered _ (receive_of_not_open source happeal hfree hopen).1
      · cases hunanswered _ (receive_of_denied source happeal (Nat.not_lt.mp hfree)).1
  · rintro ⟨a, happeal, hfree, hopen, rfl⟩
    apply (receive_of_open source happeal hfree hopen).1

/-- No request changes the settings. -/
theorem receive_settings (source : EditionSource) (s : Service) (now : Instant)
    (r : Http.Request) :
  (s.receive source now r).2.2.settings = s.settings
  := by
  cases happeal : Appeal.ofRequest? r with
  | some a => apply (receive_of_appeal source happeal).sameBesides.settings_eq
  | none =>
    cases herrand : Errand.ofRequest? r with
    | some e => rw [(receive_of_unread source herrand happeal).2]
    | none => rw [(receive_of_no_errand source s now herrand).2]

/-! ### Runs -/

theorem checks_of_none (e : Errand) (now : Instant) (h : Appeal.ofRequest? r = none) :
  checks e [(now, .request r)] = []
  := by
  simp [checks, h]

theorem checks_of_some (now : Instant) (h : Appeal.ofRequest? r = some a) :
  checks a.errand [(now, .request r)] = [.check a.client now]
  := by
  simp [checks, h]

theorem checks_of_ne (now : Instant) (h : Appeal.ofRequest? r = some a) (hne : a.errand ≠ e) :
  checks e [(now, .request r)] = []
  := by
  simp [checks, h, hne]

theorem after_limiter (source : EditionSource) (s : Service) (e : Errand) (now : Instant)
    (event : ServiceEvent) :
  (s.after source now event).limiter e = (s.limiter e).run (checks e [(now, event)])
  := by
  cases event with
  | request r =>
    rw [after]
    cases happeal : Appeal.ofRequest? r with
    | none =>
      rw [checks_of_none e now happeal]
      cases herrand : Errand.ofRequest? r with
      | none =>
        rw [(receive_of_no_errand source s now herrand).2]
        cases e with
        | explain => rfl
        | chat => rfl
      | some e' =>
        rw [(receive_of_unread source herrand happeal).2]
        cases e with
        | explain => rfl
        | chat => rfl
    | some a =>
      rw [(receive_of_appeal source happeal).limiter_eq]
      by_cases he : a.errand = e
      · subst he
        rw [checks_of_some now happeal]
        apply charge_limiter_self
      · rw [checks_of_ne now happeal he]
        apply charge_limiter_of_ne s now (Ne.symm he)
  | reply p reply =>
    cases e with
    | explain => rfl
    | chat => rfl
  | sweep =>
    cases e with
    | explain => rfl
    | chat => rfl

theorem checks_cons (e : Errand) (event : Instant × ServiceEvent)
    (events : List (Instant × ServiceEvent)) :
  checks e (event :: events) = checks e [event] ++ checks e events
  := List.filterMap_append (l := [event])

/-- In every run a limiter is told of all appeals for its errand and of nothing else but sweeps. -/
theorem run_limiter (source : EditionSource) (s : Service) (e : Errand)
    (events : List (Instant × ServiceEvent)) :
  (s.run source events).limiter e = (s.limiter e).run (checks e events)
  := by
  induction events generalizing s with
  | nil => rfl
  | cons event events ih =>
    obtain ⟨now, event⟩ := event
    rw [run, ih, after_limiter, checks_cons e (now, event) events, RateLimiter.run_append]

/-- The model is asked in an event only if a check is granted in it. -/
theorem length_askedIn_le (source : EditionSource) (s : Service) (e : Errand) (client : String)
    (now : Instant) (event : ServiceEvent) :
  (s.askedIn source e client now event).length
    ≤ ((s.limiter e).answers (checks e [(now, event)])).countP
        fun a => a.key == client && a.isAllowed
  := by
  cases event with
  | request r =>
    rw [askedIn]
    split
    · rename_i hclient
      cases hhandling : (s.receive source now r).1 with
      | answered response => apply Nat.zero_le
      | pending p =>
        obtain ⟨a, happeal, hfree, -, rfl⟩ := (receive_eq_pending_iff source).mp hhandling
        rw [Handling.askedFor]
        split
        · rename_i he
          subst he hclient
          have hallowed := (check_iff s a.errand a.client now).mpr hfree
          rw [checks_of_some now happeal, RateLimiter.answers, hallowed,
            (appeal_of_request happeal).2]
          simp [RateLimiter.answers]
        · apply Nat.zero_le
    · apply Nat.zero_le
  | reply p reply => apply Nat.zero_le
  | sweep => apply Nat.zero_le

/-- For no client the model is asked more often than checks were granted to it. -/
theorem length_asked_le (source : EditionSource) (s : Service) (e : Errand) (client : String)
    (events : List (Instant × ServiceEvent)) :
  (s.asked source e client events).length
    ≤ ((s.limiter e).answers (checks e events)).countP fun a => a.key == client && a.isAllowed
  := by
  induction events generalizing s with
  | nil => apply Nat.zero_le
  | cons event events ih =>
    obtain ⟨now, event⟩ := event
    have hrest := ih (s.after source now event)
    rw [after_limiter] at hrest
    rw [asked, checks_cons e (now, event) events, RateLimiter.answers_append, List.length_append,
      List.countP_append]
    apply Nat.add_le_add (length_askedIn_le source s e client now event) hrest

/-- The model is asked for a request exactly if the request is an appeal that its limiter allows and
to which the service is open, and then it is asked once.  A request for the assistant that is no
appeal changes nothing but the metrics.  An appeal leaves all but the strikes, the metrics and the
counter of its client for its errand as it was: if it is denied it costs nothing and is no strike;
if it is allowed it costs one unit, and it is a strike only if it is a question that does not belong
to its conversation, which is open.  The reply of the model, whatever it is, changes nothing but the
metrics.  So in every run the model is asked for no client more often than checks of the limiter
were granted to it. -/
theorem asked_within_quota (source : EditionSource) (s : Service) :
  (∀ now r p, (s.receive source now r).1 = .pending p ↔
    ∃ a, Appeal.ofRequest? r = some a ∧
      s.used a.errand a.client now < (s.limiter a.errand).limit ∧ s.isOpenTo now a = true ∧
      p = ⟨r.id, a.errand, r.arrival, a.modelRequest⟩) ∧
    (∀ now r e, Errand.ofRequest? r = some e → Appeal.ofRequest? r = none →
      let t := (s.receive source now r).2.2
      (s.receive source now r).1.status? = some 400 ∧ t = { s with metrics := t.metrics }) ∧
    (∀ now r a, Appeal.ofRequest? r = some a →
      let handling := (s.receive source now r).1
      let t := (s.receive source now r).2.2
      let used := s.used a.errand a.client now
      let limit := (s.limiter a.errand).limit
      Errand.ofRequest? r = some a.errand ∧ a.client = Http.clientOf r.headers r.peer ∧
      s.SameBesides a.errand a.client t ∧
      (limit ≤ used →
        handling.status? = some 429 ∧ t.used a.errand a.client now = used ∧
          t.offTopic = s.offTopic) ∧
      (used < limit →
        t.used a.errand a.client now = used + 1 ∧
        (s.isOpenTo now a = true → t.offTopic = s.offTopic) ∧
        (s.isOpenTo now a = false → handling.status? = some 400 ∧
          ∃ q, a = .question q ∧ t.offTopic =
            if s.offTopic.isClosed q.session now then s.offTopic
            else (s.offTopic.record q.session now).2))) ∧
    (∀ p reply now,
      let t := (s.resume p reply now).2
      t = { s with metrics := t.metrics }) ∧
    ∀ events e,
      (s.run source events).limiter e = (s.limiter e).run (checks e events) ∧
      ∀ client, (s.asked source e client events).length
        ≤ ((s.limiter e).answers (checks e events)).countP fun a => a.key == client && a.isAllowed
  := by
  use fun _ _ _ => receive_eq_pending_iff source
  use fun _ _ _ herrand hnone => receive_of_unread source herrand hnone
  constructor
  · intro now r a happeal handling t used limit
    have hcharged : s.IsCharged now a t := receive_of_appeal source happeal
    obtain ⟨herrand, hclient⟩ := appeal_of_request happeal
    use herrand, hclient, hcharged.sameBesides
    constructor
    · intro hfull
      obtain ⟨hstatus, -, htracker⟩ := receive_of_denied source happeal hfull
      use hstatus, hcharged.used_eq.trans (if_pos hfull), htracker
    · intro hfree
      use hcharged.used_eq.trans (if_neg (Nat.not_le.mpr hfree))
      constructor
      · intro hopen
        apply (receive_of_open source happeal hfree hopen).2.2
      · intro hnot
        obtain ⟨hstatus, -, htracker⟩ := receive_of_not_open source happeal hfree hnot
        exact ⟨hstatus, htracker⟩
  · constructor
    · intro p reply now t
      rfl
    · intro events e
      use run_limiter source s e events
      intro client
      apply length_asked_le

/-- A request of a client without an address. -/
def posted (path body : String) : Http.Request where
  id := "1"
  arrival := 0
  method := "POST"
  target := ⟨path, ""⟩
  headers := [⟨"content-type", "application/json"⟩]
  peer := none
  body := body.toList.map fun c => UInt8.ofNat c.toNat

/-- A service that allows a client one appeal for every errand. -/
def sparing : Service :=
  { new .default true with explainLimiter := .new 1 10, chatLimiter := .new 1 10 }

/-- The service after an explanation was asked for. -/
def spent : Service :=
  (sparing.receive (fun _ => ⟨0, .error .request⟩) 5 (posted "/api/explain" "[\"h\"]")).2.2

theorem asked_within_quota_sparing :
  let source : EditionSource := fun _ => ⟨0, .error .request⟩
  let wanting := posted "/api/explain" "[\"h\"]"
  let straying := posted "/api/chat" "[\"h\",\"2+2\"]"
  (sparing.receive source 5 (posted "/api/explain" "[]")).1.status? = some 400 ∧
    spent.used .explain "unknown" 5 = 1 ∧
    (spent.receive source 6 wanting).1.status? = some 429 ∧
    (spent.receive source 6 straying).1.status? = some 400 ∧
    (spent.receive source 6 straying).2.2.used .chat "unknown" 6 = 1
  := by
  intro source wanting straying
  obtain ⟨-, hunread, hspent, -, -⟩ := asked_within_quota source sparing
  obtain ⟨-, -, hanswers, -, -⟩ := asked_within_quota source spent
  have hwanting : (Appeal.ofRequest? wanting).map (fun a => (a.errand, a.client))
      = some (.explain, "unknown") := by decide +kernel
  have hstraying : (Appeal.ofRequest? straying).map
      (fun b => (b.errand, b.client, spent.isOpenTo 6 b)) = some (.chat, "unknown", false) := by
    decide +kernel
  obtain ⟨a, ha, hwants⟩ := Option.map_eq_some_iff.mp hwanting
  obtain ⟨b, hb, hstrays⟩ := Option.map_eq_some_iff.mp hstraying
  obtain ⟨haerrand, haclient⟩ := Prod.mk.inj hwants
  obtain ⟨hberrand, hrest⟩ := Prod.mk.inj hstrays
  obtain ⟨hbclient, hnot⟩ := Prod.mk.inj hrest
  have hfirst := hspent 5 wanting a ha
  have hdenied := hanswers 6 wanting a ha
  have hstrike := hanswers 6 straying b hb
  simp only [haerrand, haclient] at hfirst hdenied
  simp only [hberrand, hbclient] at hstrike
  have hcharged := hstrike.2.2.2.2 (by decide +kernel)
  use (hunread 5 _ .explain (by decide +kernel) (by decide +kernel)).1
  use (hfirst.2.2.2.2 (by decide +kernel)).1
  use (hdenied.2.2.2.1 (by decide +kernel)).1
  use (hcharged.2.2 hnot).1
  exact hcharged.1

end HadithService.Service
