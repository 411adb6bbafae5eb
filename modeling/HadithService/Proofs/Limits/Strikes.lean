import HadithService.Limits.OffTopic
import HadithService.Proofs.Limits.Counters

/-!
# Strikes in a row

A tracker counts, for every conversation, how many of its strikes are in a row: since when none
has come later than the timeout after the one before, and the timeout has not passed since the
last (`OffTopicTracker.Counts`).  Sweeps do not matter, for they only drop what has expired.
-/

namespace HadithService.OffTopicTracker

variable {t : OffTopicTracker} {history : String → List Instant} {timeout : Duration}
  {last now : Instant} {session : String} {strikes rest : List Instant}

/-- How many strikes, given from the last to the first, are in a row at an instant. -/
def inARow (timeout : Duration) : Instant → List Instant → Nat
  | _, [] => 0
  | now, since :: rest => if hasExpired timeout since now then 0 else inARow timeout since rest + 1

theorem inARow_of_expired {since : Instant} (h : hasExpired timeout since now = true) :
  inARow timeout now (since :: rest) = 0
  := by
  rw [inARow, if_pos h]

theorem inARow_of_fresh {since : Instant} (h : hasExpired timeout since now = false) :
  inARow timeout now (since :: rest) = inARow timeout since rest + 1
  := by
  rw [inARow, if_neg (Bool.eq_false_iff.mp h)]

/-- Strikes before a gap do not count: here all strikes but those before `since` came later than
the timeout after it. -/
theorem inARow_append {since : Instant} (hnow : hasExpired timeout since now = true)
    (hstrikes : ∀ strike ∈ strikes, hasExpired timeout since strike = true) :
  inARow timeout now (strikes ++ since :: rest) = inARow timeout now strikes
  := by
  induction strikes generalizing now with
  | nil => apply inARow_of_expired hnow
  | cons strike strikes ih =>
    rw [List.cons_append]
    cases hexpired : hasExpired timeout strike now with
    | true => rw [inARow_of_expired hexpired, inARow_of_expired hexpired]
    | false =>
      rw [inARow_of_fresh hexpired, inARow_of_fresh hexpired, ih]
      · apply hstrikes strike List.mem_cons_self
      · intro strike' hmem
        apply hstrikes strike' (List.mem_cons_of_mem _ hmem)

/-- After a strike the conversation is closed exactly if the strike closes it. -/
theorem isClosed_record (t : OffTopicTracker) (session : String) (now : Instant) :
  (t.record session now).2.isClosed session now = (t.record session now).1.shouldClose
  := by
  have hself := Counter.find?_put_self t.counters
    ⟨session, (Counter.current t.counters t.timeout session now).count + 1, now⟩
  simp only [isClosed, record, hself, hasExpired_self, Bool.not_false, Bool.true_and]
  rfl

/-- The tracker counts the strikes of a history, as of an instant. -/
structure Counts (history : String → List Instant) (last : Instant) (t : OffTopicTracker) :
    Prop where
  distinct : Counter.Distinct t.counters
  found : ∀ (session : String) (c : Counter), Counter.find? t.counters session = some c →
    ∃ rest, history session = c.since :: rest ∧ c.count = inARow t.timeout c.since rest + 1
  missing : ∀ session, Counter.find? t.counters session = none →
    ∀ now, last ≤ now → inARow t.timeout now (history session) = 0

namespace Counts

theorem new (threshold : Nat) (timeout : Duration) :
  (new threshold timeout).Counts (fun _ => []) 0
  where
    distinct := List.nodup_nil
    found := by
      intro session c hc
      cases hc
    missing := by
      intro session _ now _
      rfl

theorem congr (h : t.Counts history last) {history' : String → List Instant}
    (heq : ∀ session, history' session = history session) :
  t.Counts history' last
  := by
  rw [funext heq]
  apply h

theorem later (h : t.Counts history last) (hle : last ≤ now) :
  t.Counts history now
  where
    distinct := h.distinct
    found := h.found
    missing session hnone now' hnow := h.missing session hnone now' (Nat.le_trans hle hnow)

/-- A counter counts the strikes in a row. -/
theorem current_count (h : t.Counts history last) (session : String) (hle : last ≤ now) :
  (Counter.current t.counters t.timeout session now).count
    = inARow t.timeout now (history session)
  := by
  rw [Counter.current]
  cases hfind : Counter.find? t.counters session with
  | none => exact (h.missing session hfind now hle).symm
  | some c =>
    obtain ⟨rest, hhistory, hcount⟩ := h.found session c hfind
    rw [hhistory]
    cases hexpired : hasExpired t.timeout c.since now with
    | true =>
      simp only [hexpired, if_true]
      rw [inARow_of_expired hexpired]
    | false =>
      simp only [hexpired, Bool.false_eq_true, if_false]
      rw [inARow_of_fresh hexpired, hcount]

/-- A conversation is closed when there have been strikes and as many in a row as the threshold. -/
theorem isClosed_iff (h : t.Counts history last) (session : String) (hle : last ≤ now) :
  t.isClosed session now = true ↔ max 1 t.threshold ≤ inARow t.timeout now (history session)
  := by
  rw [isClosed]
  cases hfind : Counter.find? t.counters session with
  | none =>
    have hzero := h.missing session hfind now hle
    simp only [Bool.false_eq_true, false_iff]
    omega
  | some c =>
    obtain ⟨rest, hhistory, hcount⟩ := h.found session c hfind
    rw [hhistory]
    cases hexpired : hasExpired t.timeout c.since now with
    | true =>
      rw [inARow_of_expired hexpired]
      simp [hexpired]
    | false =>
      rw [inARow_of_fresh hexpired, ← hcount]
      simp only [hexpired, Bool.not_false, Bool.true_and, decide_eq_true_eq]
      omega

/-- A strike is the next in a row. -/
theorem record_fst (h : t.Counts history last) (session : String) (hle : last ≤ now) :
  (t.record session now).1
    = ⟨inARow t.timeout now (history session) + 1,
        t.threshold - (inARow t.timeout now (history session) + 1),
        t.threshold ≤ inARow t.timeout now (history session) + 1⟩
  := by
  rw [record, h.current_count session hle]

/-- A strike is added to the history. -/
theorem record (h : t.Counts history last) (session : String) (hle : last ≤ now) :
  (t.record session now).2.Counts
    (fun other => if other = session then now :: history other else history other) now
  where
    distinct := h.distinct.put _
    found := by
      intro other c hc
      by_cases hother : other = session
      · subst hother
        have hself := Counter.find?_put_self t.counters
          ⟨other, (Counter.current t.counters t.timeout other now).count + 1, now⟩
        obtain rfl := Option.some.inj (hself.symm.trans hc)
        use history other
        rw [if_pos rfl]
        use rfl
        exact congrArg (· + 1) (h.current_count other hle)
      · have hskip := Counter.find?_put_of_ne t.counters
          (c := ⟨session, (Counter.current t.counters t.timeout session now).count + 1, now⟩)
          (Ne.symm hother)
        rw [if_neg hother]
        apply h.found other c (hskip.symm.trans hc)
    missing := by
      intro other hnone now' hnow
      by_cases hother : other = session
      · subst hother
        have hself := Counter.find?_put_self t.counters
          ⟨other, (Counter.current t.counters t.timeout other now).count + 1, now⟩
        cases hself.symm.trans hnone
      · have hskip := Counter.find?_put_of_ne t.counters
          (c := ⟨session, (Counter.current t.counters t.timeout session now).count + 1, now⟩)
          (Ne.symm hother)
        rw [if_neg hother]
        apply h.missing other (hskip.symm.trans hnone) now' (Nat.le_trans hle hnow)

/-- A sweep drops only what does not count any more. -/
theorem prune (h : t.Counts history last) (hle : last ≤ now) :
  (t.prune now).2.Counts history now
  where
    distinct := h.distinct.alive _ _
    found session c hc := h.found session c (h.distinct.find?_of_alive hc)
    missing := by
      intro session hnone now' hnow
      cases hfind : Counter.find? t.counters session with
      | none => apply h.missing session hfind now' (Nat.le_trans hle hnow)
      | some c =>
        obtain ⟨rest, hhistory, -⟩ := h.found session c hfind
        have hexpired := Counter.hasExpired_of_alive hfind hnone
        rw [hhistory]
        apply inARow_of_expired (hasExpired_mono hnow hexpired)

/-- No counter counts further than there have been strikes in a row. -/
theorem count_le (h : t.Counts history last) {limit : Nat}
    (hlimit : ∀ session now, inARow t.timeout now (history session) ≤ limit) {c : Counter}
    (hc : c ∈ t.counters) :
  c.count ≤ limit
  := by
  obtain ⟨rest, hhistory, hcount⟩ := h.found c.key c (h.distinct.find? hc)
  have hle := hlimit c.key c.since
  rw [hhistory, inARow_of_fresh (hasExpired_self _ _)] at hle
  omega

end Counts

end HadithService.OffTopicTracker
