import HadithService.Proofs.Limits.Strikes
import HadithService.Proofs.Service.Chatting
import Mathlib.Data.List.Induction

/-!
# Closing conversations

The strikes of a conversation can be told from the questions that were heard in it alone: a
question that does not belong to it is a strike unless the conversation is closed, which it is when
as many strikes are in a row as the threshold (`Chat.strikes`).  After every run the service has
counted exactly these (`Service.counts_run`), and it answers accordingly
(`Service.closes_after_strikes`).
-/

namespace HadithService

open OffTopicTracker (inARow)

/-! ### The strikes of a conversation -/

namespace Chat

variable {threshold : Nat} {timeout : Duration} {session : String} {now : Instant}
  {row rest : List Instant} {asked : List (Instant × ChatQuestion)}

/-- The strikes after a question, given those before, from the last to the first. -/
def strikesAfter (threshold : Nat) (timeout : Duration) (session : String)
    (row : List Instant) (a : Instant × ChatQuestion) : List Instant :=
  if a.2.session = session ∧ a.2.isRelevant = false ∧ inARow timeout a.1 row < max 1 threshold
  then a.1 :: row
  else row

/-- The strikes of a conversation among the questions that were heard. -/
def strikes (threshold : Nat) (timeout : Duration) (asked : List (Instant × ChatQuestion))
    (session : String) : List Instant :=
  asked.foldl (strikesAfter threshold timeout session) []

theorem strikes_append (asked asked' : List (Instant × ChatQuestion)) :
  strikes threshold timeout (asked ++ asked') session
    = asked'.foldl (strikesAfter threshold timeout session)
        (strikes threshold timeout asked session)
  := by
  rw [strikes, List.foldl_append]
  rfl

/-- There are never more strikes in a row than close the conversation. -/
theorem inARow_le (threshold : Nat) (timeout : Duration) (asked : List (Instant × ChatQuestion))
    (session : String) (now : Instant) :
  inARow timeout now (strikes threshold timeout asked session) ≤ max 1 threshold
  := by
  induction asked using List.reverseRecOn generalizing now with
  | nil => apply Nat.zero_le
  | append_singleton asked a ih =>
    rw [strikes_append, List.foldl_cons, List.foldl_nil, strikesAfter]
    split
    · rename_i hstrike
      cases hexpired : hasExpired timeout a.1 now with
      | true =>
        rw [OffTopicTracker.inARow_of_expired hexpired]
        apply Nat.zero_le
      | false =>
        rw [OffTopicTracker.inARow_of_fresh hexpired]
        apply hstrike.2.2
    · apply ih

/-- After the strike that closed the conversation there are no strikes until the timeout has
passed, and the strikes after that are those that there would be without the strikes before. -/
theorem foldl_strikesAfter_closed {since : Instant} {between : List (Instant × ChatQuestion)}
    (hclosed : inARow timeout since rest + 1 = max 1 threshold)
    (hlater : ∀ strike ∈ row, hasExpired timeout since strike = true)
    (hbetween : ∀ strike ∈ row, ∀ b ∈ between, strike ≤ b.1)
    (hordered : between.Pairwise fun a b => a.1 ≤ b.1) :
  between.foldl (strikesAfter threshold timeout session) (row ++ since :: rest)
    = (between.filter fun b => hasExpired timeout since b.1).foldl
        (strikesAfter threshold timeout session) row ++ since :: rest
  := by
  induction between generalizing row with
  | nil => rfl
  | cons b between ih =>
    obtain ⟨hfirst, hordered⟩ := List.pairwise_cons.mp hordered
    rw [List.foldl_cons, List.filter_cons]
    cases hexpired : hasExpired timeout since b.1 with
    | true =>
      have hrow : inARow timeout b.1 (row ++ since :: rest) = inARow timeout b.1 row :=
        OffTopicTracker.inARow_append hexpired hlater
      rw [strikesAfter, hrow, if_pos rfl, List.foldl_cons, strikesAfter]
      split
      · rw [← List.cons_append]
        apply ih
        · intro strike hmem
          rcases List.mem_cons.mp hmem with rfl | hmem
          · apply hexpired
          · apply hlater strike hmem
        · intro strike hmem c hc
          rcases List.mem_cons.mp hmem with rfl | hmem
          · apply hfirst c hc
          · apply hbetween strike hmem c (List.mem_cons_of_mem _ hc)
        · apply hordered
      · apply ih hlater _ hordered
        intro strike hmem c hc
        apply hbetween strike hmem c (List.mem_cons_of_mem _ hc)
    | false =>
      have hnil : row = [] := by
        apply List.eq_nil_iff_forall_not_mem.mpr
        intro strike hmem
        have hle := hbetween strike hmem b List.mem_cons_self
        rw [hasExpired_mono hle (hlater strike hmem)] at hexpired
        cases hexpired
      subst hnil
      have hfull : ¬ (b.2.session = session ∧ b.2.isRelevant = false ∧
          inARow timeout b.1 (since :: rest) < max 1 threshold) := by
        rw [OffTopicTracker.inARow_of_fresh hexpired, hclosed]
        simp
      rw [List.nil_append, strikesAfter, if_neg hfull, if_neg Bool.false_ne_true]
      apply ih hlater _ hordered
      intro strike hmem
      cases hmem

/-- A strike is a question that was heard. -/
theorem mem_of_mem_strikes {strike : Instant} (h : strike ∈ strikes threshold timeout asked session) :
  ∃ a ∈ asked, a.1 = strike
  := by
  induction asked using List.reverseRecOn with
  | nil => cases h
  | append_singleton asked a ih =>
    have hearlier : strike ∈ strikes threshold timeout asked session →
        ∃ b ∈ asked ++ [a], b.1 = strike := by
      intro hmem
      obtain ⟨b, hb, heq⟩ := ih hmem
      use b, List.mem_append_left _ hb
    rw [strikes_append, List.foldl_cons, List.foldl_nil, strikesAfter] at h
    split at h
    · rcases List.mem_cons.mp h with rfl | h
      · use a
        simp
      · apply hearlier h
    · apply hearlier h

section Closed

variable {before between : List (Instant × ChatQuestion)} {a : Instant × ChatQuestion}

/-- The strikes after the one that closed the conversation are those that there would be if nobody
had asked before the timeout had passed. -/
theorem strikes_of_closed (hsession : a.2.session = session) (hstrayed : a.2.isRelevant = false)
    (hclosed : inARow timeout a.1 (strikes threshold timeout before session) + 1 = max 1 threshold)
    (hordered : between.Pairwise fun a b => a.1 ≤ b.1) :
  strikes threshold timeout (before ++ a :: between) session
    = strikes threshold timeout (between.filter fun b => hasExpired timeout a.1 b.1) session
        ++ a.1 :: strikes threshold timeout before session
  := by
  have hlt : inARow timeout a.1 (strikes threshold timeout before session) < max 1 threshold := by
    omega
  have hlast : strikesAfter threshold timeout session (strikes threshold timeout before session) a
      = [] ++ a.1 :: strikes threshold timeout before session := by
    rw [strikesAfter, if_pos ⟨hsession, hstrayed, hlt⟩, List.nil_append]
  rw [strikes_append, List.foldl_cons, hlast, foldl_strikesAfter_closed hclosed _ _ hordered]
  · rfl
  · intro strike hmem
    cases hmem
  · intro strike hmem
    cases hmem

/-- Until the timeout has passed since the strike that closed the conversation all strikes count
that closed it. -/
theorem inARow_of_closed (hsession : a.2.session = session) (hstrayed : a.2.isRelevant = false)
    (hclosed : inARow timeout a.1 (strikes threshold timeout before session) + 1 = max 1 threshold)
    (hordered : between.Pairwise fun a b => a.1 ≤ b.1) (hnow : ∀ b ∈ between, b.1 ≤ now)
    (hfresh : hasExpired timeout a.1 now = false) :
  inARow timeout now (strikes threshold timeout (before ++ a :: between) session) = max 1 threshold
  := by
  have hnone : (between.filter fun b => hasExpired timeout a.1 b.1) = [] := by
    apply List.filter_eq_nil_iff.mpr
    intro b hb hexpired
    rw [hasExpired_mono (hnow b hb) hexpired] at hfresh
    cases hfresh
  rw [strikes_of_closed hsession hstrayed hclosed hordered, hnone, ← hclosed]
  apply OffTopicTracker.inARow_of_fresh hfresh

/-- Once the timeout has passed only later strikes count. -/
theorem inARow_of_reopened (hsession : a.2.session = session) (hstrayed : a.2.isRelevant = false)
    (hclosed : inARow timeout a.1 (strikes threshold timeout before session) + 1 = max 1 threshold)
    (hordered : between.Pairwise fun a b => a.1 ≤ b.1)
    (hexpired : hasExpired timeout a.1 now = true) :
  inARow timeout now (strikes threshold timeout (before ++ a :: between) session)
    = inARow timeout now
        (strikes threshold timeout (between.filter fun b => hasExpired timeout a.1 b.1) session)
  := by
  rw [strikes_of_closed hsession hstrayed hclosed hordered]
  apply OffTopicTracker.inARow_append hexpired
  intro strike hmem
  obtain ⟨b, hb, rfl⟩ := mem_of_mem_strikes hmem
  apply (List.mem_filter.mp hb).2

end Closed

/-- What a client reads after a strike that leaves the conversation open. -/
theorem offTopic_eq (strike : Strike) :
  offTopic strike = .ofJson 400
    (.object [("success", .bool false),
      ("answer", .string (offTopicNotice ++ if 1 < strike.count then warning strike.remaining else "")),
      ("isOffTopic", .bool true)])
  := by
  rw [offTopic]
  split
  · rfl
  · rw [String.append_empty]

end Chat

namespace Service

variable {source : EditionSource} {s : Service} {threshold : Nat} {timeout : Duration}
  {last now : Instant} {asked : List (Instant × ChatQuestion)} {q : ChatQuestion} {r : Http.Request}

/-! ### What the service has counted -/

/-- The service has counted the strikes among the questions that were heard, as of an instant. -/
structure HasCounted (threshold : Nat) (timeout : Duration)
    (asked : List (Instant × ChatQuestion)) (last : Instant) (s : Service) : Prop where
  threshold_eq : s.offTopic.threshold = threshold
  timeout_eq : s.offTopic.timeout = timeout
  counts : s.offTopic.Counts (Chat.strikes threshold timeout asked) last

namespace HasCounted

theorem new (s : Service) (threshold : Nat) (timeout : Duration) :
  HasCounted threshold timeout [] 0 { s with offTopic := .new threshold timeout }
  where
    threshold_eq := rfl
    timeout_eq := rfl
    counts := OffTopicTracker.Counts.new threshold timeout

theorem isClosed_iff (h : s.HasCounted threshold timeout asked last) (session : String)
    (hle : last ≤ now) :
  s.offTopic.isClosed session now = true
    ↔ inARow timeout now (Chat.strikes threshold timeout asked session) = max 1 threshold
  := by
  have hlimit := Chat.inARow_le threshold timeout asked session now
  rw [h.counts.isClosed_iff session hle, h.threshold_eq, h.timeout_eq]
  omega

/-- Nothing but a strike matters. -/
theorem of_offTopic (h : s.HasCounted threshold timeout asked last) {t : Service}
    (hsame : t.offTopic = s.offTopic) (hle : last ≤ now) :
  t.HasCounted threshold timeout asked now
  where
    threshold_eq := hsame ▸ h.threshold_eq
    timeout_eq := hsame ▸ h.timeout_eq
    counts := hsame ▸ h.counts.later hle

/-- A question that is no strike may be added to those that were heard. -/
theorem add (h : s.HasCounted threshold timeout asked now)
    (hnone : q.isRelevant = false →
      inARow timeout now (Chat.strikes threshold timeout asked q.session) = max 1 threshold) :
  s.HasCounted threshold timeout (asked ++ [(now, q)]) now
  where
    threshold_eq := h.threshold_eq
    timeout_eq := h.timeout_eq
    counts := by
      apply h.counts.congr
      intro session
      rw [Chat.strikes_append, List.foldl_cons, List.foldl_nil, Chat.strikesAfter, if_neg]
      rintro ⟨rfl, hstrayed, hlt⟩
      rw [hnone hstrayed] at hlt
      apply Nat.lt_irrefl _ hlt

/-- A strike is counted. -/
theorem strike (h : s.HasCounted threshold timeout asked last) (hle : last ≤ now)
    (hstrayed : q.isRelevant = false)
    (hlt : inARow timeout now (Chat.strikes threshold timeout asked q.session) < max 1 threshold)
    {t : Service} (ht : t.offTopic = (s.offTopic.record q.session now).2) :
  t.HasCounted threshold timeout (asked ++ [(now, q)]) now
  where
    threshold_eq := by
      rw [ht]
      apply h.threshold_eq
    timeout_eq := by
      rw [ht]
      apply h.timeout_eq
    counts := by
      rw [ht]
      apply (h.counts.record q.session hle).congr
      intro session
      rw [Chat.strikes_append, List.foldl_cons, List.foldl_nil, Chat.strikesAfter]
      by_cases hsession : session = q.session
      · subst hsession
        rw [if_pos rfl, if_pos ⟨rfl, hstrayed, hlt⟩]
      · rw [if_neg hsession, if_neg]
        rintro ⟨heq, -⟩
        apply hsession heq.symm

/-- Every event keeps it that the strikes have been counted. -/
theorem after (h : s.HasCounted threshold timeout asked last) (source : EditionSource)
    (hle : last ≤ now) (e : ServiceEvent) :
  (s.after source now e).HasCounted threshold timeout
    (asked ++ (s.heard? now e).toList.map ((now, ·))) now
  := by
  cases e with
  | request r =>
    rw [heard?]
    cases hhears : s.hears? now r with
    | none =>
      rw [Option.toList_none, List.map_nil, List.append_nil]
      apply h.of_offTopic (receive_offTopic source hhears) hle
    | some q =>
      cases hclosed : s.offTopic.isClosed q.session now with
      | true =>
        apply (h.of_offTopic (receive_of_closed source hhears hclosed).2 hle).add
        intro _
        apply (h.isClosed_iff q.session hle).mp hclosed
      | false =>
        cases hrelevant : q.isRelevant with
        | true =>
          apply (h.of_offTopic (receive_of_relevant source hhears hclosed hrelevant).2 hle).add
          rw [hrelevant]
          rintro ⟨⟩
        | false =>
          apply h.strike hle hrelevant _ (receive_of_strike source hhears hclosed hrelevant).2
          apply Nat.lt_of_le_of_ne (Chat.inARow_le threshold timeout asked q.session now)
          intro hfull
          rw [(h.isClosed_iff q.session hle).mpr hfull] at hclosed
          cases hclosed
  | reply p reply =>
    rw [heard?, Option.toList_none, List.map_nil, List.append_nil]
    apply h.of_offTopic _ hle
    rfl
  | sweep =>
    rw [heard?, Option.toList_none, List.map_nil, List.append_nil]
    constructor
    · apply h.threshold_eq
    · apply h.timeout_eq
    · apply h.counts.prune hle

/-- The strikes have been counted after every run. -/
theorem run (h : s.HasCounted threshold timeout asked last) (source : EditionSource)
    {events : List (Instant × ServiceEvent)} (hordered : events.Pairwise fun a b => a.1 ≤ b.1)
    (hlast : ∀ e ∈ events, last ≤ e.1) (hnow : ∀ e ∈ events, e.1 ≤ now) (hle : last ≤ now) :
  (s.run source events).HasCounted threshold timeout (asked ++ s.questions source events) now
  := by
  induction events generalizing s asked last with
  | nil =>
    rw [Service.run, questions, List.append_nil]
    apply h.of_offTopic rfl hle
  | cons e events ih =>
    obtain ⟨came, e⟩ := e
    obtain ⟨hfirst, hordered⟩ := List.pairwise_cons.mp hordered
    rw [Service.run, questions, ← List.append_assoc]
    apply ih (h.after source (hlast _ List.mem_cons_self) e) hordered hfirst
    · intro e he
      apply hnow e (List.mem_cons_of_mem _ he)
    · apply hnow _ List.mem_cons_self

/-- When as many strikes are in a row as close the conversation it is closed. -/
theorem receive_of_full (h : s.HasCounted threshold timeout asked now) (source : EditionSource)
    (hhears : s.hears? now r = some q)
    (hfull : inARow timeout now (Chat.strikes threshold timeout asked q.session)
      = max 1 threshold) :
  (s.receive source now r).1 = .answered (s.dressed r.id Chat.closed) ∧
    (s.receive source now r).2.2.offTopic = s.offTopic
  := receive_of_closed source hhears ((h.isClosed_iff q.session (Nat.le_refl now)).mpr hfull)

/-- When fewer strikes are in a row the conversation is open. -/
theorem isClosed_of_lt (h : s.HasCounted threshold timeout asked now) {session : String}
    (hlt : inARow timeout now (Chat.strikes threshold timeout asked session) < max 1 threshold) :
  s.offTopic.isClosed session now = false
  := by
  apply Bool.eq_false_iff.mpr
  intro hclosed
  rw [(h.isClosed_iff session (Nat.le_refl now)).mp hclosed] at hlt
  apply Nat.lt_irrefl _ hlt

theorem receive_of_relevant (h : s.HasCounted threshold timeout asked now)
    (source : EditionSource) (hhears : s.hears? now r = some q)
    (hlt : inARow timeout now (Chat.strikes threshold timeout asked q.session) < max 1 threshold)
    (hrelevant : q.isRelevant = true) :
  (∃ request, (s.receive source now r).1 = .pending ⟨r.id, .chat, r.arrival, request⟩) ∧
    (s.receive source now r).2.2.offTopic = s.offTopic
  := by
  obtain ⟨hhandling, htracker⟩ :=
    Service.receive_of_relevant source hhears (h.isClosed_of_lt hlt) hrelevant
  use ⟨_, hhandling⟩

/-- A strike is told which one in a row it is. -/
theorem receive_of_strike (h : s.HasCounted threshold timeout asked now)
    (source : EditionSource) (hhears : s.hears? now r = some q) {n : Nat}
    (hn : inARow timeout now (Chat.strikes threshold timeout asked q.session) = n)
    (hlt : n < max 1 threshold) (hstrayed : q.isRelevant = false) :
  (s.receive source now r).1 = .answered (s.dressed r.id
    (if threshold ≤ n + 1 then Chat.closed
      else Chat.offTopic ⟨n + 1, threshold - (n + 1), threshold ≤ n + 1⟩))
  := by
  have hopen := h.isClosed_of_lt (hn ▸ hlt)
  obtain ⟨hhandling, -⟩ := Service.receive_of_strike source hhears hopen hstrayed
  rw [h.counts.record_fst q.session (Nat.le_refl now), h.timeout_eq, h.threshold_eq, hn]
    at hhandling
  simpa using hhandling

/-- A strike that leaves the conversation open is told how many are left. -/
theorem receive_of_left (h : s.HasCounted threshold timeout asked now)
    (source : EditionSource) (hhears : s.hears? now r = some q) :
  let n := inARow timeout now (Chat.strikes threshold timeout asked q.session)
  n < max 1 threshold → q.isRelevant = false → n + 1 < threshold →
    (s.receive source now r).1 = .answered
        (s.dressed r.id (Chat.offTopic ⟨n + 1, threshold - (n + 1), false⟩)) ∧
      1 ≤ threshold - (n + 1)
  := by
  intro n hlt hstrayed hleft
  constructor
  · have hhandling := h.receive_of_strike source hhears rfl hlt hstrayed
    have hshould : ¬ threshold ≤ n + 1 := Nat.not_le.mpr hleft
    rw [if_neg hshould, decide_eq_false hshould] at hhandling
    apply hhandling
  · omega

/-- The last strike closes the conversation. -/
theorem receive_of_last (h : s.HasCounted threshold timeout asked now)
    (source : EditionSource) (hhears : s.hears? now r = some q) :
  let n := inARow timeout now (Chat.strikes threshold timeout asked q.session)
  n < max 1 threshold → q.isRelevant = false → ¬ n + 1 < threshold →
    n + 1 = max 1 threshold ∧
      (s.receive source now r).1 = .answered (s.dressed r.id Chat.closed)
  := by
  intro n hlt hstrayed hleft
  constructor
  · omega
  · have hhandling := h.receive_of_strike source hhears rfl hlt hstrayed
    rw [if_pos (Nat.not_lt.mp hleft)] at hhandling
    apply hhandling

end HasCounted

/-- Questions are heard at the instants of events. -/
theorem instants_questions (source : EditionSource) (s : Service)
    (events : List (Instant × ServiceEvent)) :
  List.Sublist ((s.questions source events).map Prod.fst) (events.map Prod.fst)
  := by
  induction events generalizing s with
  | nil => apply List.Sublist.refl
  | cons e events ih =>
    obtain ⟨came, e⟩ := e
    rw [questions, List.map_append, List.map_map, List.map_cons]
    cases s.heard? came e with
    | none => apply (ih _).cons
    | some q => apply (ih _).cons_cons

theorem pairwise_questions (source : EditionSource) (s : Service)
    {events : List (Instant × ServiceEvent)} (hordered : events.Pairwise fun a b => a.1 ≤ b.1) :
  (s.questions source events).Pairwise fun a b => a.1 ≤ b.1
  := by
  apply List.pairwise_map.mp
  apply (List.pairwise_map.mpr hordered).sublist (instants_questions source s events)

theorem le_of_mem_questions (source : EditionSource) (s : Service)
    {events : List (Instant × ServiceEvent)} (hnow : ∀ e ∈ events, e.1 ≤ now)
    {a : Instant × ChatQuestion} (ha : a ∈ s.questions source events) :
  a.1 ≤ now
  := by
  have hmem := (instants_questions source s events).subset (List.mem_map_of_mem ha)
  obtain ⟨e, he, heq⟩ := List.mem_map.mp hmem
  rw [← heq]
  apply hnow e he

/-! ### What questions get -/

/-- After every run, in which a conversation has `n` strikes in a row at an instant, a question that
is heard in it then is answered as follows.  If `n` is the threshold, or one, whichever is greater,
the conversation is closed: the client is told to close it, no model is asked and the strikes stay
as they are.  If it is less, a question that belongs to the conversation goes to the model, and the
strikes stay as they are; another one is the next strike.  The client is then told that it is off
the topic, and from the second strike on how many are left, at least one, or, after the last one, to
close the conversation.  From a strike that has closed it until the timeout has passed the
conversation is closed, and afterwards its strikes are counted as if nothing had been asked before.
No counter exceeds the number of strikes that close a conversation. -/
theorem closes_after_strikes (source : EditionSource) (service : Service) (threshold : Nat)
    (timeout : Duration) (events : List (Instant × ServiceEvent)) (now : Instant)
    (hordered : events.Pairwise fun a b => a.1 ≤ b.1) (hnow : ∀ e ∈ events, e.1 ≤ now) :
  let start : Service := { service with offTopic := .new threshold timeout }
  let s := start.run source events
  let asked := start.questions source events
  (∀ c ∈ s.offTopic.counters, c.count ≤ max 1 threshold) ∧
    ∀ r q, s.hears? now r = some q →
      let n := inARow timeout now (Chat.strikes threshold timeout asked q.session)
      let handling := (s.receive source now r).1
      let tracker := (s.receive source now r).2.2.offTopic
      let told (members : List (String × Json)) : Handling :=
        .answered
          { status := 400
            headers := ⟨"content-type", "application/json"⟩ ::
              (s.sharing.headers ++ [⟨"x-request-id", r.id⟩])
            body := .json (.object members) }
      let closed := told
        [("success", .bool false), ("error", .string Chat.closedNotice),
          ("shouldCloseChat", .bool true)]
      let strayed (count remaining : Nat) := told
        [("success", .bool false),
          ("answer", .string (Chat.offTopicNotice ++
            if 1 < count then
              "\n\n⚠️ تنبيه: لديك " ++ toString remaining ++ " محاولات متبقية قبل إغلاق الدردشة."
            else "")),
          ("isOffTopic", .bool true)]
      n ≤ max 1 threshold ∧
      (n = max 1 threshold → handling = closed ∧ tracker = s.offTopic) ∧
      (n < max 1 threshold → q.isRelevant = true →
        (∃ request, handling = .pending ⟨r.id, .chat, r.arrival, request⟩) ∧
          tracker = s.offTopic) ∧
      (n < max 1 threshold → q.isRelevant = false → n + 1 < threshold →
        handling = strayed (n + 1) (threshold - (n + 1)) ∧ 1 ≤ threshold - (n + 1)) ∧
      (n < max 1 threshold → q.isRelevant = false → ¬ n + 1 < threshold →
        n + 1 = max 1 threshold ∧ handling = closed) ∧
      ∀ before a between, asked = before ++ a :: between → a.2.session = q.session →
        a.2.isRelevant = false →
        inARow timeout a.1 (Chat.strikes threshold timeout before q.session) + 1
          = max 1 threshold →
        (now - a.1 ≤ timeout → handling = closed ∧ tracker = s.offTopic) ∧
        (timeout < now - a.1 → n = inARow timeout now (Chat.strikes threshold timeout
          (between.filter fun b => hasExpired timeout a.1 b.1) q.session))
  := by
  intro start s asked
  have hcounted : s.HasCounted threshold timeout asked now := by
    have hnew := HasCounted.new service threshold timeout
    apply hnew.run source hordered (fun _ _ => Nat.zero_le _) hnow (Nat.zero_le _)
  constructor
  · intro c hc
    apply hcounted.counts.count_le _ hc
    intro session later
    rw [hcounted.timeout_eq]
    apply Chat.inARow_le
  · intro r q hhears n handling tracker told closed strayed
    have hfull : n = max 1 threshold → handling = closed ∧ tracker = s.offTopic :=
      hcounted.receive_of_full source hhears
    use Chat.inARow_le threshold timeout asked q.session now, hfull
    use hcounted.receive_of_relevant source hhears
    constructor
    · intro hlt hstrayed hleft
      obtain ⟨hhandling, hremaining⟩ := hcounted.receive_of_left source hhears hlt hstrayed hleft
      rw [Chat.offTopic_eq] at hhandling
      use hhandling
    use hcounted.receive_of_last source hhears
    intro before a between hasked hsession hstrayed hlast
    have hbetween : between.Pairwise fun a b => a.1 ≤ b.1 := by
      have hasked_ordered : asked.Pairwise fun a b => a.1 ≤ b.1 :=
        pairwise_questions source start hordered
      rw [hasked] at hasked_ordered
      apply (List.pairwise_cons.mp (List.pairwise_append.mp hasked_ordered).2.1).2
    constructor
    · intro hwithin
      have hheard : ∀ b ∈ between, b.1 ≤ now := by
        intro b hb
        have hmem : b ∈ asked := by
          rw [hasked]
          apply List.mem_append_right before (List.mem_cons_of_mem a hb)
        apply le_of_mem_questions source start hnow hmem
      have hfresh : hasExpired timeout a.1 now = false := by
        apply Bool.eq_false_iff.mpr
        rw [Ne, hasExpired_iff]
        apply Nat.not_lt.mpr hwithin
      apply hfull
      have hrow := Chat.inARow_of_closed hsession hstrayed hlast hbetween hheard hfresh
      rw [← hasked] at hrow
      apply hrow
    · intro hpassed
      have hexpired := hasExpired_iff.mpr hpassed
      have hrow := Chat.inARow_of_reopened hsession hstrayed hlast hbetween hexpired
      rw [← hasked] at hrow
      apply hrow

/-- A question that is off the topic, in the conversation "s". -/
def strayingRequest : Http.Request where
  id := "1"
  arrival := 0
  method := "POST"
  target := ⟨"/api/chat", ""⟩
  headers := [⟨"content-type", "application/json"⟩]
  peer := none
  body := "[\"h\",\"2+2\",null,\"s\"]".toList.map fun c => UInt8.ofNat c.toNat

/-- The question asked again and again, with a sweep in between. -/
def strayingEvents : List (Instant × ServiceEvent) :=
  [(0, .request strayingRequest), (3, .sweep), (5, .request strayingRequest),
    (9, .request strayingRequest)]

/-- A service that closes conversations after three strikes, when some of the questions have been
asked. -/
def strayedFor (count : Nat) : Service :=
  run (fun _ => ⟨0, .error .request⟩) { new .default true with offTopic := .new 3 10 }
    (strayingEvents.take count)

/-- What the question is answered with. -/
def strayingAnswer (members : List (String × Json)) : Handling :=
  .answered
    { status := 400
      headers :=
        [⟨"content-type", "application/json"⟩,
          ⟨"vary", "origin, access-control-request-method, access-control-request-headers"⟩,
          ⟨"access-control-allow-origin", "*"⟩, ⟨"x-request-id", "1"⟩]
      body := .json (.object members) }

theorem closes_after_strikes_thrice :
  ((strayedFor 2).receive (fun _ => ⟨0, .error .request⟩) 5 strayingRequest).1
      = strayingAnswer
          [("success", .bool false),
            ("answer", .string (Chat.offTopicNotice ++
              "\n\n⚠️ تنبيه: لديك 1 محاولات متبقية قبل إغلاق الدردشة.")),
            ("isOffTopic", .bool true)] ∧
    ((strayedFor 4).receive (fun _ => ⟨0, .error .request⟩) 12 strayingRequest).1
      = strayingAnswer
          [("success", .bool false), ("error", .string Chat.closedNotice),
            ("shouldCloseChat", .bool true)] ∧
    ((strayedFor 4).receive (fun _ => ⟨0, .error .request⟩) 12 strayingRequest).2.2.offTopic
      = (strayedFor 4).offTopic
  := by
  have hheard : ∀ count now, (count = 2 ∧ now = 5 ∨ count = 4 ∧ now = 12) →
      ∃ q, (strayedFor count).hears? now strayingRequest = some q ∧
        q.session = "s" ∧ q.isRelevant = false := by
    intro count now hwhen
    have hquestion : ((strayedFor count).hears? now strayingRequest).map
        (fun q => (q.session, q.isRelevant)) = some ("s", false) := by
      rcases hwhen with ⟨rfl, rfl⟩ | ⟨rfl, rfl⟩ <;> decide +kernel
    obtain ⟨q, hhears, hq⟩ := Option.map_eq_some_iff.mp hquestion
    obtain ⟨hsession, hstrayed⟩ := Prod.mk.inj hq
    use q
  constructor
  · obtain ⟨q, hhears, hsession, hstrayed⟩ := hheard 2 5 (by decide)
    have hanswers := closes_after_strikes (fun _ => ⟨0, .error .request⟩) (new .default true) 3 10
      (strayingEvents.take 2) 5 (by decide) (by decide)
    have hcount : inARow 10 5 (Chat.strikes 3 10
        (questions (fun _ => ⟨0, .error .request⟩)
          { new .default true with offTopic := .new 3 10 } (strayingEvents.take 2)) q.session) = 1 := by
      rw [hsession]
      decide +kernel
    have hleft := (hanswers.2 strayingRequest q hhears).2.2.2.1
    rw [hcount] at hleft
    apply (hleft (by decide) hstrayed (by decide)).1
  · obtain ⟨q, hhears, hsession, -⟩ := hheard 4 12 (by decide)
    have hanswers := closes_after_strikes (fun _ => ⟨0, .error .request⟩) (new .default true) 3 10
      (strayingEvents.take 4) 12 (by decide) (by decide)
    apply (hanswers.2 strayingRequest q hhears).2.1
    rw [hsession]
    decide +kernel

end Service

end HadithService
