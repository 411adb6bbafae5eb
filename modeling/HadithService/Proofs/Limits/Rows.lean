import HadithService.Proofs.Limits.Strikes
import Mathlib.Data.Finset.Dedup
import Mathlib.Data.Finset.Order
import Mathlib.Data.List.Induction
import Mathlib.Order.Bounds.Basic

/-!
# The longest row of strikes

A tracker keeps one count and one instant for each conversation.  Whatever run of strikes, looks and
sweeps came before, these say how long the longest row of the most recent strikes is: as many of
them as possible of which no two in succession are further apart than the timeout
(`OffTopicTracker.counts_longest_row`).  What happened in other conversations does not matter.
-/

namespace HadithService.OffTopicTracker

variable {timeout : Duration} {session : String} {now since : Instant} {rest : List Instant}
  {events : List Event} {n : Nat}

/-! ### Rows -/

/-- Strikes, from the last to the first, of which no two in succession are further apart than the
timeout. -/
def IsRow (timeout : Duration) (strikes : List Instant) : Prop :=
  strikes.IsChain fun later earlier => later - earlier ≤ timeout

/-- The number of strikes in the longest row of the most recent ones. -/
def IsLongestRow (timeout : Duration) (strikes : List Instant) (n : Nat) : Prop :=
  IsGreatest {m | m ≤ strikes.length ∧ IsRow timeout (strikes.take m)} n

/-- A row goes on past the last strike if the one before did not come too early for it. -/
theorem isRow_take_iff {strike : Instant} :
  IsRow timeout ((now :: strike :: rest).take (n + 2)) ↔
    hasExpired timeout strike now = false ∧ IsRow timeout ((strike :: rest).take (n + 1))
  := by
  rw [IsRow, IsRow, List.take_succ_cons, List.take_succ_cons, List.isChain_cons_cons,
    hasExpired_eq_false_iff]

/-- The strikes that are in a row with a strike make up the longest row together with it. -/
theorem isLongestRow_inARow (timeout : Duration) (since : Instant) (rest : List Instant) :
  IsLongestRow timeout (since :: rest) (inARow timeout since rest + 1)
  := by
  induction rest generalizing since with
  | nil =>
    constructor
    · use Nat.le_refl 1, .singleton since
    · intro m hm
      apply hm.1
  | cons strike rest ih =>
    cases hexpired : hasExpired timeout strike since with
    | true =>
      rw [inARow_of_expired hexpired]
      constructor
      · use Nat.le_add_left 1 _, .singleton since
      · intro m hm
        by_contra hlong
        obtain ⟨k, rfl⟩ : ∃ k, m = k + 2 := Nat.exists_eq_add_of_le' (by omega)
        have hfresh := (isRow_take_iff.mp hm.2).1
        rw [hexpired] at hfresh
        cases hfresh
    | false =>
      rw [inARow_of_fresh hexpired]
      obtain ⟨⟨hlength, hrow⟩, hgreatest⟩ := ih strike
      constructor
      · use Nat.succ_le_succ hlength
        apply isRow_take_iff.mpr ⟨hexpired, hrow⟩
      · intro m hm
        obtain hshort | hlong : m ≤ 1 ∨ 2 ≤ m := by omega
        · apply Nat.le_trans hshort (Nat.le_add_left 1 _)
        · obtain ⟨k, rfl⟩ := Nat.exists_eq_add_of_le' hlong
          apply Nat.succ_le_succ
          apply hgreatest
          use Nat.le_of_succ_le_succ hm.1, (isRow_take_iff.mp hm.2).2

/-- There are as many strikes in a row at an instant as in the longest row, unless the timeout has
passed since the last one. -/
theorem le_inARow_iff (threshold : Nat) (timeout : Duration) (now : Instant)
    (strikes : List Instant) :
  max 1 threshold ≤ inARow timeout now strikes ↔
    ∃ last ∈ strikes.head?, now - last ≤ timeout ∧
      ∃ n, IsLongestRow timeout strikes n ∧ threshold ≤ n
  := by
  cases strikes with
  | nil => simp [inARow]
  | cons last rest =>
    have hlongest := isLongestRow_inARow timeout last rest
    simp only [List.head?_cons, Option.mem_def, Option.some.injEq, exists_eq_left',
      ← hasExpired_eq_false_iff]
    cases hexpired : hasExpired timeout last now with
    | true =>
      rw [inARow_of_expired hexpired]
      simp
    | false =>
      rw [inARow_of_fresh hexpired, Nat.max_le]
      constructor
      · rintro ⟨-, hle⟩
        exact ⟨rfl, _, hlongest, hle⟩
      · rintro ⟨-, n, hn, hle⟩
        rw [hn.unique hlongest] at hle
        use Nat.le_add_left 1 _

/-! ### Runs -/

theorem run_concat (t : OffTopicTracker) (events : List Event) (e : Event) :
  t.run (events ++ [e]) = (t.run events).after e
  := by
  rw [run, List.foldl_append]
  rfl

/-- A run of events changes the counters only. -/
theorem run_eq (t : OffTopicTracker) (events : List Event) :
  t.run events = { t with counters := (t.run events).counters }
  := by
  induction events using List.reverseRecOn with
  | nil => rfl
  | append_singleton events e ih =>
    rw [run_concat, ih]
    cases e with
    | _ => rfl

theorem strikesOf_concat (session : String) (events : List Event) (e : Event) :
  strikesOf session (events ++ [e]) = (e.strike? session).toList ++ strikesOf session events
  := by
  rw [strikesOf, strikesOf, List.filterMap_append, List.reverse_append]
  cases hstrike : e.strike? session with
  | none => simp [hstrike]
  | some now => simp [hstrike]

theorem length_strikesOf_le (session : String) (events : List Event) :
  (strikesOf session events).length ≤ events.countP Event.isStrike
  := by
  rw [strikesOf, List.length_reverse, List.length_filterMap_eq_countP]
  apply List.countP_mono_left
  intro e _ hsome
  cases e with
  | record other now => rfl
  | isClosed other now => cases hsome
  | prune now => cases hsome

/-- The strikes of a conversation are among what concerns it. -/
theorem strikesOf_filter (session : String) (events : List Event) :
  strikesOf session (events.filter (Event.isOf session)) = strikesOf session events
  := by
  rw [strikesOf, strikesOf, List.filterMap_filter]
  congr 2
  funext e
  cases e with
  | record other now =>
    simp only [Event.isOf, Event.strike?, beq_iff_eq]
    split
    · rfl
    · rfl
  | isClosed other now => simp [Event.isOf, Event.strike?]
  | prune now => rfl

/-- An event adds its strike to the history, if it is one. -/
theorem Counts.after {t : OffTopicTracker} {last : Instant} {e : Event}
    (h : t.Counts (fun session => strikesOf session events) last) (hle : last ≤ e.instant) :
  (t.after e).Counts (fun session => strikesOf session (events ++ [e])) e.instant
  := by
  cases e with
  | record other now =>
    apply (h.record other hle).congr
    intro session
    rw [strikesOf_concat, Event.strike?]
    by_cases hsession : other = session
    · subst hsession
      rw [if_pos rfl, if_pos rfl]
      rfl
    · rw [if_neg hsession, if_neg (Ne.symm hsession)]
      rfl
  | isClosed other now =>
    apply (h.later hle).congr
    intro session
    rw [strikesOf_concat]
    rfl
  | prune now =>
    apply (h.prune hle).congr
    intro session
    rw [strikesOf_concat]
    rfl

/-- After a run of events in their order a tracker has counted the strikes among them. -/
theorem counts_run (threshold : Nat) (timeout : Duration)
    (hordered : events.Pairwise fun e f => e.instant ≤ f.instant)
    (hnow : ∀ e ∈ events, e.instant ≤ now) :
  ((new threshold timeout).run events).Counts (fun session => strikesOf session events) now
  := by
  induction events using List.reverseRecOn generalizing now with
  | nil => apply (Counts.new threshold timeout).later (Nat.zero_le now)
  | append_singleton events e ih =>
    obtain ⟨hbefore, -, hlast⟩ := List.pairwise_append.mp hordered
    have hcounts := ih hbefore fun f hf => hlast f hf e (List.mem_singleton_self e)
    rw [run_concat]
    apply (hcounts.after (Nat.le_refl e.instant)).later
    apply hnow e (List.mem_append_right _ (List.mem_singleton_self e))

theorem inARow_le_length (timeout : Duration) (now : Instant) (strikes : List Instant) :
  inARow timeout now strikes ≤ strikes.length
  := by
  induction strikes generalizing now with
  | nil => apply Nat.le_refl
  | cons since rest ih =>
    rw [inARow]
    split
    · apply Nat.zero_le
    · apply Nat.succ_le_succ (ih since)

/-- In every run of strikes, looks and sweeps in the order of their instants, a further strike of a
conversation is counted as the last of the longest row of its most recent strikes, and the
conversation is closed if it has strikes, the timeout has not passed since the last one, and their
longest row is as long as the threshold at least.  Both are as if only what concerns the
conversation had happened.  No counter exceeds the number of strikes in the run. -/
theorem counts_longest_row (threshold : Nat) (timeout : Duration) (events : List Event)
    (hordered : events.Pairwise fun e f => e.instant ≤ f.instant) :
  let t := (new threshold timeout).run events
  (∀ c ∈ t.counters, c.count ≤ events.countP Event.isStrike) ∧
    ∀ session now, (∀ e ∈ events, e.instant ≤ now) →
      let strikes := strikesOf session events
      let alone := (new threshold timeout).run (events.filter (Event.isOf session))
      (∃ n, IsLongestRow timeout (now :: strikes) n ∧
        (t.record session now).1 = ⟨n, threshold - n, threshold ≤ n⟩) ∧
      (t.isClosed session now = true ↔
        ∃ last ∈ strikes.head?, now - last ≤ timeout ∧
          ∃ n, IsLongestRow timeout strikes n ∧ threshold ≤ n) ∧
      (t.record session now).1 = (alone.record session now).1 ∧
      t.isClosed session now = alone.isClosed session now
  := by
  intro t
  obtain ⟨latest, hlatest⟩ := (events.map Event.instant).toFinset.exists_le
  have hrow : ∀ session now, inARow t.timeout now (strikesOf session events)
      ≤ events.countP Event.isStrike :=
    fun session now => Nat.le_trans (inARow_le_length _ now _) (length_strikesOf_le session events)
  constructor
  · have hcounts : t.Counts (fun session => strikesOf session events) latest := by
      apply counts_run threshold timeout hordered
      intro e he
      apply hlatest
      simpa using ⟨e, he, rfl⟩
    intro c hc
    apply hcounts.count_le hrow hc
  · intro session now hnow strikes alone
    have htimeout : t.timeout = timeout := congrArg OffTopicTracker.timeout (run_eq _ events)
    have hthreshold : t.threshold = threshold := congrArg OffTopicTracker.threshold (run_eq _ events)
    have htimeout' : alone.timeout = timeout := congrArg OffTopicTracker.timeout (run_eq _ _)
    have hthreshold' : alone.threshold = threshold := congrArg OffTopicTracker.threshold (run_eq _ _)
    have hcounts : t.Counts (fun session => strikesOf session events) now :=
      counts_run threshold timeout hordered hnow
    have halone : alone.Counts
        (fun session' => strikesOf session' (events.filter (Event.isOf session))) now :=
      counts_run threshold timeout (hordered.filter _)
        fun e he => hnow e (List.mem_filter.mp he).1
    have hrecord := hcounts.record_fst session (Nat.le_refl now)
    have hclosed := hcounts.isClosed_iff session (Nat.le_refl now)
    have hrecord' := halone.record_fst session (Nat.le_refl now)
    have hclosed' := halone.isClosed_iff session (Nat.le_refl now)
    rw [hthreshold', htimeout', strikesOf_filter] at hrecord' hclosed'
    rw [hthreshold, htimeout] at hrecord hclosed
    constructor
    · use inARow timeout now strikes + 1, isLongestRow_inARow timeout now strikes, hrecord
    constructor
    · rw [hclosed, le_inARow_iff]
    constructor
    · rw [hrecord, hrecord']
    · rw [Bool.eq_iff_iff, hclosed, hclosed']

/-- Two conversations, of which the first has a strike exactly when the timeout is over after the
one before, and another one later. -/
def twoConversations : List Event :=
  [.record "a" 0, .record "b" 3, .record "a" 10, .isClosed "a" 10, .prune 14, .record "a" 21,
   .prune 21, .record "a" 31]

theorem counts_longest_row_two :
  let t := (new 2 10).run twoConversations
  (twoConversations.Pairwise fun e f => e.instant ≤ f.instant) ∧
    (∀ e ∈ twoConversations, e.instant ≤ 40) ∧
    strikesOf "a" twoConversations = [31, 21, 10, 0] ∧
    (t.record "a" 40).1 = ⟨3, 0, true⟩ ∧ t.isClosed "a" 40 = true ∧
    t.isClosed "b" 40 = false
  := by
  intro t
  have hordered : twoConversations.Pairwise fun e f => e.instant ≤ f.instant := by decide
  have hnow : ∀ e ∈ twoConversations, e.instant ≤ 40 := by decide
  obtain ⟨-, hlaw⟩ := counts_longest_row 2 10 twoConversations hordered
  obtain ⟨⟨n, hn, hrecord⟩, hclosed, -⟩ := hlaw "a" 40 hnow
  obtain ⟨-, hopen, -⟩ := hlaw "b" 40 hnow
  have hstrikes : strikesOf "a" twoConversations = [31, 21, 10, 0] := by decide
  have hthree : n = 3 := hn.unique (isLongestRow_inARow 10 40 (strikesOf "a" twoConversations))
  subst hthree
  use hordered, hnow, hstrikes, hrecord
  constructor
  · apply hclosed.mpr
    use 31, by decide, by decide, 2, isLongestRow_inARow 10 31 [21, 10, 0]
  · rw [Bool.eq_false_iff, ne_eq, hopen]
    rintro ⟨last, hlast, hfresh, -⟩
    cases hlast
    revert hfresh
    decide

end HadithService.OffTopicTracker
