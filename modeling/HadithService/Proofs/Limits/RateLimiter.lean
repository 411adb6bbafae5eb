import HadithService.Limits.RateLimiter
import HadithService.Proofs.Limits.Counters

/-!
# What a limiter counts

A call that is allowed adds one to the counter of its client, which never exceeds the limit
(`RateLimiter.IsBounded.run`).  A client gets the same answers whether or not others call, and
whether or not windows that have ended are dropped (`RateLimiter.filter_answers`).
-/

namespace HadithService

namespace RateLimiter

variable {r r' : RateLimiter} {key other : String} {last now : Instant} {events : List Event}

/-! ### Counts -/

/-- The counter of a client once a call has been counted, if it is allowed. -/
def counted (r : RateLimiter) (key : String) (now : Instant) : Counter :=
  let c := Counter.current r.counters r.window key now
  if r.limit ≤ c.count then c else { c with count := c.count + 1 }

@[simp]
theorem counted_key (r : RateLimiter) (key : String) (now : Instant) :
  (r.counted key now).key = key
  := by
  rw [counted]
  split
  · apply Counter.current_key
  · apply Counter.current_key

theorem check_fst (r : RateLimiter) (key : String) (now : Instant) :
  (r.check key now).1 = decide ((Counter.current r.counters r.window key now).count < r.limit)
  := by
  rw [check]
  split
  · rename_i hfull
    exact (decide_eq_false (Nat.not_lt.mpr hfull)).symm
  · rename_i hfree
    exact (decide_eq_true (Nat.not_le.mp hfree)).symm

theorem check_snd (r : RateLimiter) (key : String) (now : Instant) :
  (r.check key now).2 = { r with counters := Counter.put r.counters (r.counted key now) }
  := by
  rw [check, counted]
  split
  · rfl
  · rfl

@[simp]
theorem check_limit (r : RateLimiter) (key : String) (now : Instant) :
  (r.check key now).2.limit = r.limit
  := by
  rw [check_snd]

@[simp]
theorem check_window (r : RateLimiter) (key : String) (now : Instant) :
  (r.check key now).2.window = r.window
  := by
  rw [check_snd]

theorem find?_check_self (r : RateLimiter) (key : String) (now : Instant) :
  Counter.find? (r.check key now).2.counters key = some (r.counted key now)
  := by
  have hself := Counter.find?_put_self r.counters (r.counted key now)
  rw [counted_key] at hself
  rw [check_snd, hself]

/-- A call is counted at once. -/
theorem current_check_self (r : RateLimiter) (key : String) (now : Instant) :
  Counter.current (r.check key now).2.counters r.window key now = r.counted key now
  := by
  apply Counter.current_of_fresh (find?_check_self r key now)
  have hfresh := Counter.hasExpired_current r.counters r.window key now
  rw [counted]
  split
  · apply hfresh
  · apply hfresh

theorem find?_check_of_ne (r : RateLimiter) (hne : other ≠ key) (now : Instant) :
  Counter.find? (r.check other now).2.counters key = Counter.find? r.counters key
  := by
  have hkey : (r.counted other now).key ≠ key := by rwa [counted_key]
  rw [check_snd]
  apply Counter.find?_put_of_ne r.counters hkey

/-- No counter exceeds the limit. -/
def IsBounded (r : RateLimiter) : Prop :=
  ∀ c ∈ r.counters, c.count ≤ r.limit

theorem IsBounded.current_le (h : r.IsBounded) (key : String) (now : Instant) :
  (Counter.current r.counters r.window key now).count ≤ r.limit
  := by
  rw [Counter.current]
  cases hfind : Counter.find? r.counters key with
  | none => apply Nat.zero_le
  | some c =>
    simp only
    split
    · apply Nat.zero_le
    · apply h c (Counter.mem_of_find? hfind)

theorem IsBounded.counted_le (h : r.IsBounded) (key : String) (now : Instant) :
  (r.counted key now).count ≤ r.limit
  := by
  rw [counted]
  split
  · apply h.current_le
  · rename_i hfree
    apply Nat.not_le.mp hfree

theorem IsBounded.after (h : r.IsBounded) (e : Event) :
  (r.after e).IsBounded
  := by
  cases e with
  | check key now =>
    rw [RateLimiter.after, check_snd]
    intro c hc
    rcases List.mem_cons.mp hc with rfl | hc
    · apply h.counted_le
    · apply h c (List.mem_filter.mp hc).1
  | prune now =>
    intro c hc
    apply h c (List.mem_filter.mp hc).1

@[simp]
theorem run_limit (r : RateLimiter) (events : List Event) :
  (r.run events).limit = r.limit
  := by
  induction events generalizing r with
  | nil => rfl
  | cons e events ih =>
    rw [run, List.foldl_cons]
    apply (ih (r.after e)).trans
    cases e with
    | check key now => apply check_limit
    | prune now => rfl

theorem IsBounded.run (h : r.IsBounded) (events : List Event) :
  (r.run events).IsBounded
  := by
  induction events generalizing r with
  | nil => apply h
  | cons e events ih => apply ih (h.after e)

@[simp]
theorem run_append (r : RateLimiter) (before after : List Event) :
  r.run (before ++ after) = (r.run before).run after
  := List.foldl_append

theorem answers_append (r : RateLimiter) (before after : List Event) :
  r.answers (before ++ after) = r.answers before ++ (r.run before).answers after
  := by
  induction before generalizing r with
  | nil => rfl
  | cons e before ih =>
    cases e with
    | check key now => exact congrArg (_ :: ·) (ih _)
    | prune now => exact ih _

/-! ### Clients by themselves -/

/-- From an instant on a client has the same counter in two limiters. -/
structure AgreesAt (key : String) (last : Instant) (r r' : RateLimiter) : Prop where
  limit_eq : r.limit = r'.limit
  window_eq : r.window = r'.window
  current_eq : ∀ now, last ≤ now →
    Counter.current r.counters r.window key now = Counter.current r'.counters r'.window key now

namespace AgreesAt

theorem refl (key : String) (last : Instant) (r : RateLimiter) :
  r.AgreesAt key last r
  := ⟨rfl, rfl, fun _ _ => rfl⟩

/-- A call of the client is answered alike. -/
theorem check_fst (h : r.AgreesAt key last r') (hle : last ≤ now) :
  (r.check key now).1 = (r'.check key now).1
  := by
  rw [RateLimiter.check_fst, RateLimiter.check_fst, h.current_eq now hle, h.limit_eq]

/-- After a call of the client it still has the same counter. -/
theorem check (h : r.AgreesAt key last r') (hle : last ≤ now) :
  (r.check key now).2.AgreesAt key now (r'.check key now).2
  := by
  constructor
  · rw [check_limit, check_limit, h.limit_eq]
  · rw [check_window, check_window, h.window_eq]
  · intro later _
    have hcounted : r.counted key now = r'.counted key now := by
      rw [counted, counted, h.current_eq now hle, h.limit_eq]
    simp only [Counter.current, find?_check_self, hcounted, check_window, h.window_eq]

/-- A call of another client does not matter. -/
theorem check_of_ne (h : r.AgreesAt key last r') (hne : other ≠ key) (now : Instant) :
  (r.check other now).2.AgreesAt key last r'
  := by
  have hkey : (r.counted other now).key ≠ key := by rwa [counted_key]
  rw [check_snd]
  constructor
  · apply h.limit_eq
  · apply h.window_eq
  · intro later hlater
    rw [← h.current_eq later hlater]
    apply Counter.current_put_of_ne r.counters hkey

/-- It does not matter whether windows that have ended are dropped. -/
theorem prune (h : r.AgreesAt key last r') (hdistinct : Counter.Distinct r.counters)
    (hle : last ≤ now) :
  (r.prune now).2.AgreesAt key now r'
  := by
  constructor
  · apply h.limit_eq
  · apply h.window_eq
  · intro later hlater
    rw [← h.current_eq later (Nat.le_trans hle hlater)]
    apply hdistinct.current_alive hlater

theorem later (h : r.AgreesAt key last r') (hle : last ≤ now) :
  r.AgreesAt key now r'
  := { h with current_eq := fun now' hnow => h.current_eq now' (Nat.le_trans hle hnow) }

end AgreesAt

theorem distinct_after (h : Counter.Distinct r.counters) (e : Event) :
  Counter.Distinct (r.after e).counters
  := by
  cases e with
  | check key now =>
    rw [after, check_snd]
    apply h.put
  | prune now => apply h.alive

@[simp]
theorem callsOf_check_self (key : String) (now : Instant) (events : List Event) :
  callsOf key (.check key now :: events) = now :: callsOf key events
  := by
  simp [callsOf]

@[simp]
theorem callsOf_check_of_ne (hne : other ≠ key) (now : Instant) (events : List Event) :
  callsOf key (.check other now :: events) = callsOf key events
  := by
  simp [callsOf, hne]

@[simp]
theorem callsOf_prune (key : String) (now : Instant) (events : List Event) :
  callsOf key (.prune now :: events) = callsOf key events
  := by
  simp [callsOf]

/-- A client gets the answers that it would get if nobody else called and no window were
dropped. -/
theorem filter_answers (h : r.AgreesAt key last r') (hdistinct : Counter.Distinct r.counters)
    (hordered : events.Pairwise fun e f => e.instant ≤ f.instant)
    (hlast : ∀ e ∈ events, last ≤ e.instant) :
  (r.answers events).filter (fun a => a.key == key)
    = r'.answers ((callsOf key events).map (Event.check key))
  := by
  induction events generalizing r r' last with
  | nil => rfl
  | cons e events ih =>
    obtain ⟨hfirst, hrest⟩ := List.pairwise_cons.mp hordered
    have hafter := distinct_after hdistinct e
    cases e with
    | check other now =>
      have hle : last ≤ now := hlast _ List.mem_cons_self
      rw [answers, List.filter_cons]
      by_cases hkey : other = key
      · subst hkey
        rw [callsOf_check_self, List.map_cons, answers, ← ih (h.check hle) hafter hrest hfirst,
          ← h.check_fst hle, if_pos (beq_self_eq_true other)]
      · rw [callsOf_check_of_ne hkey, if_neg (by simpa using hkey)]
        apply ih ((h.check_of_ne hkey now).later hle) hafter hrest hfirst
    | prune now =>
      have hle : last ≤ now := hlast _ List.mem_cons_self
      rw [answers, callsOf_prune]
      apply ih (h.prune hdistinct hle) hafter hrest hfirst

/-- The calls of a client come in the order of the run. -/
theorem pairwise_callsOf (key : String)
    (hordered : events.Pairwise fun e f => e.instant ≤ f.instant) :
  (callsOf key events).Pairwise (· ≤ ·)
  := by
  apply List.Pairwise.filterMap _ _ hordered
  intro e f hle t ht u hu
  cases e with
  | check other now =>
    cases f with
    | check other' now' =>
      simp only [Option.ite_none_right_eq_some, Option.some.injEq] at ht hu
      rw [← ht.2, ← hu.2]
      apply hle
    | prune now' => cases hu
  | prune now => cases ht

end RateLimiter

end HadithService
