import HadithService.Proofs.Limits.RateLimiter

/-!
# Windows of calls

The calls of a client split into windows: the first of them opens one, and so does every call that
comes later than the length of a window after the opening of the one before (`Window.Split`).  In
every window the limiter allows the first calls, as many as its limit, and denies the rest, so that
in an interval no longer than a window at most twice as many are allowed
(`RateLimiter.fixed_window`).
-/

namespace HadithService

/-- A window: the call that opens it and the calls in it after that. -/
structure Window where
  opening : Instant
  later : List Instant

namespace Window

variable {length : Duration} {limit : Nat} {key : String} {rest : List Instant} {w : Window}
  {windows : List Window} {t : Instant}

/-- The calls in a window. -/
def calls (w : Window) : List Instant :=
  w.opening :: w.later

/-- A window with one more call. -/
def add (w : Window) (t : Instant) : Window :=
  ⟨w.opening, w.later ++ [t]⟩

/-- The answers to the calls of a client in a window: as many as the limit are allowed, and then
no more. -/
def answers (limit : Nat) (key : String) (w : Window) : List RateLimiter.Answer :=
  (w.calls.take limit).map (⟨key, ·, true⟩) ++ (w.calls.drop limit).map (⟨key, ·, false⟩)

/-- Whether a call was allowed in a closed interval of time. -/
def isAllowedIn (first last : Instant) (a : RateLimiter.Answer) : Bool :=
  a.isAllowed && first ≤ a.now && a.now ≤ last

/-- Calls split into windows of some length: no call in a window comes later than its length after
its opening, and the next window opens with the first call that does. -/
structure Split (length : Duration) (calls : List Instant) (windows : List Window) : Prop where
  calls_eq : windows.flatMap Window.calls = calls
  within : ∀ w ∈ windows, ∀ t ∈ w.calls, w.opening ≤ t ∧ t ≤ w.opening + length
  apart : windows.IsChain fun v w => v.opening + length < w.opening

@[simp]
theorem add_calls (w : Window) (t : Instant) :
  (w.add t).calls = w.calls ++ [t]
  := rfl

/-- The call that opens a window is allowed unless the limit is zero. -/
theorem answers_opening (limit : Nat) (key : String) (t : Instant) :
  answers limit key ⟨t, []⟩ = [⟨key, t, decide (0 < limit)⟩]
  := by
  cases limit with
  | zero => rfl
  | succ limit => simp [answers, calls]

/-- One more call in a window is allowed if fewer came before it than the limit. -/
theorem add_answers (limit : Nat) (key : String) (w : Window) (t : Instant) :
  (w.add t).answers limit key
    = w.answers limit key ++ [⟨key, t, decide (w.calls.length < limit)⟩]
  := by
  rw [answers, answers, add_calls]
  by_cases hlt : w.calls.length < limit
  · have hall : w.calls.length ≤ limit := Nat.le_of_lt hlt
    have hall' : (w.calls ++ [t]).length ≤ limit := by
      rw [List.length_append]
      exact hlt
    rw [List.take_of_length_le hall, List.take_of_length_le hall', List.drop_of_length_le hall,
      List.drop_of_length_le hall', decide_eq_true hlt]
    simp
  · have hle : limit ≤ w.calls.length := Nat.not_lt.mp hlt
    rw [List.take_append_of_le_length hle, List.drop_append_of_le_length hle,
      decide_eq_false hlt]
    simp

/-- The windows of calls that come when a window is open. -/
def following (length : Duration) : Window → List Instant → List Window
  | w, [] => [w]
  | w, t :: rest =>
    if hasExpired length w.opening t then w :: following length ⟨t, []⟩ rest
    else following length (w.add t) rest

/-- The windows of calls. -/
def ofCalls (length : Duration) : List Instant → List Window
  | [] => []
  | t :: rest => following length ⟨t, []⟩ rest

/-- The first of the windows is the one that is open. -/
theorem exists_following (length : Duration) (w : Window) (rest : List Instant) :
  ∃ later windows, following length w rest = ⟨w.opening, later⟩ :: windows
  := by
  induction rest generalizing w with
  | nil => use w.later, []; rfl
  | cons t rest ih =>
    rw [following]
    split
    · use w.later, following length ⟨t, []⟩ rest
    · apply ih

theorem split_following (hordered : (w.opening :: rest).Pairwise (· ≤ ·))
    (hwithin : ∀ t ∈ w.calls, w.opening ≤ t ∧ t ≤ w.opening + length) :
  Split length (w.calls ++ rest) (following length w rest)
  := by
  induction rest generalizing w with
  | nil =>
    constructor
    · simp [following]
    · intro v hv
      obtain rfl := List.mem_singleton.mp hv
      apply hwithin
    · apply List.IsChain.singleton
  | cons t rest ih =>
    obtain ⟨hopening, htail⟩ := List.pairwise_cons.mp hordered
    rw [following]
    split
    · rename_i hexpired
      have hrest : Split length (t :: rest) (following length ⟨t, []⟩ rest) := by
        apply ih (w := ⟨t, []⟩) htail
        simp [calls]
      obtain ⟨later, windows, heq⟩ := exists_following length ⟨t, []⟩ rest
      constructor
      · rw [List.flatMap_cons, hrest.calls_eq]
      · intro v hv
        rcases List.mem_cons.mp hv with rfl | hv
        · apply hwithin
        · apply hrest.within v hv
      · have hapart := hrest.apart
        rw [heq] at hapart ⊢
        apply List.isChain_cons_cons.mpr
        use hasExpired_iff_add_lt.mp hexpired
    · rename_i hfresh
      have hcalls : w.calls ++ t :: rest = (w.add t).calls ++ rest := by simp
      rw [hcalls]
      apply ih
      · apply hordered.sublist ((List.sublist_cons_self t rest).cons_cons w.opening)
      · intro u hu
        rw [add_calls, List.mem_append, List.mem_singleton] at hu
        rcases hu with hu | rfl
        · apply hwithin u hu
        · use hopening u List.mem_cons_self
          rw [hasExpired_iff_add_lt] at hfresh
          apply Nat.not_lt.mp hfresh

theorem split_ofCalls (hordered : rest.Pairwise (· ≤ ·)) :
  Split length rest (ofCalls length rest)
  := by
  cases rest with
  | nil =>
    constructor
    · rfl
    · simp [ofCalls]
    · apply List.IsChain.nil
  | cons t rest => exact split_following (w := ⟨t, []⟩) hordered (by simp [calls])

/-! ### Calls that are allowed -/

variable {first last : Instant}

/-- In a window no more calls are allowed than the limit. -/
theorem countP_answers_le (limit : Nat) (key : String) (w : Window) (first last : Instant) :
  (w.answers limit key).countP (isAllowedIn first last) ≤ limit
  := by
  have hdenied : ((w.calls.drop limit).map (RateLimiter.Answer.mk key · false)).countP
      (isAllowedIn first last) = 0 := by
    rw [List.countP_eq_zero]
    intro a ha
    obtain ⟨t, -, rfl⟩ := List.mem_map.mp ha
    simp [isAllowedIn]
  rw [answers, List.countP_append, hdenied, Nat.add_zero]
  apply Nat.le_trans List.countP_le_length
  rw [List.length_map]
  apply List.length_take_le

theorem mem_calls_of_mem_answers {a : RateLimiter.Answer} (h : a ∈ w.answers limit key) :
  a.now ∈ w.calls
  := by
  rcases List.mem_append.mp h with h | h
  · obtain ⟨t, ht, rfl⟩ := List.mem_map.mp h
    apply List.mem_of_mem_take ht
  · obtain ⟨t, ht, rfl⟩ := List.mem_map.mp h
    apply List.mem_of_mem_drop ht

theorem countP_answers_eq_zero (h : ∀ t ∈ w.calls, ¬ (first ≤ t ∧ t ≤ last)) :
  (w.answers limit key).countP (isAllowedIn first last) = 0
  := by
  rw [List.countP_eq_zero]
  intro a ha hallowed
  apply h a.now (mem_calls_of_mem_answers ha)
  simp only [isAllowedIn, Bool.and_eq_true, decide_eq_true_eq] at hallowed
  use hallowed.1.2, hallowed.2

/-- No window after this one has calls in an interval that ends within a window's length after the
opening of this one. -/
theorem countP_later_eq_zero (hwithin : ∀ v ∈ windows, ∀ t ∈ v.calls, v.opening ≤ t)
    (hapart : (w :: windows).IsChain fun v w => v.opening + length < w.opening)
    (hlast : last ≤ w.opening + length) :
  (windows.flatMap (answers limit key)).countP (isAllowedIn first last) = 0
  := by
  induction windows generalizing w with
  | nil => rfl
  | cons v windows ih =>
    obtain ⟨hnext, hapart⟩ := List.isChain_cons_cons.mp hapart
    have hbefore : last < v.opening := Nat.lt_of_le_of_lt hlast hnext
    rw [List.flatMap_cons, List.countP_append, countP_answers_eq_zero, Nat.zero_add]
    · apply ih _ hapart
      · apply Nat.le_trans (Nat.le_of_lt hbefore) (Nat.le_add_right _ _)
      · intro u hu
        apply hwithin u (List.mem_cons_of_mem _ hu)
    · rintro t ht ⟨-, hle⟩
      have hopening := hwithin v List.mem_cons_self t ht
      apply Nat.lt_irrefl last
      apply Nat.lt_of_lt_of_le hbefore (Nat.le_trans hopening hle)

/-- In an interval no longer than a window at most two windows have calls, so no more than twice
the limit are allowed. -/
theorem Split.countP_le {calls : List Instant} (h : Split length calls windows)
    (hlast : last ≤ first + length) :
  (windows.flatMap (answers limit key)).countP (isAllowedIn first last) ≤ 2 * limit
  := by
  obtain ⟨-, hwithin, hapart⟩ := h
  induction windows with
  | nil => apply Nat.zero_le
  | cons v windows ih =>
    have hlater : ∀ u ∈ windows, ∀ t ∈ u.calls, u.opening ≤ t ∧ t ≤ u.opening + length :=
      fun u hu => hwithin u (List.mem_cons_of_mem _ hu)
    rw [List.flatMap_cons, List.countP_append]
    by_cases hcall : ∃ t ∈ v.calls, first ≤ t
    · obtain ⟨t, ht, hfirst⟩ := hcall
      have hv := countP_answers_le limit key v first last
      cases windows with
      | nil =>
        rw [List.flatMap_nil, List.countP_nil]
        omega
      | cons w windows =>
        have hnext := (List.isChain_cons_cons.mp hapart).1
        -- the call was made before the next window, so the interval ends within that window
        have hend : last ≤ w.opening + length := by
          have hle := (hwithin v List.mem_cons_self t ht).2
          apply Nat.le_trans hlast
          apply Nat.add_le_add_right
          apply Nat.le_trans hfirst (Nat.le_trans hle (Nat.le_of_lt hnext))
        have hzero : (windows.flatMap (answers limit key)).countP (isAllowedIn first last) = 0 := by
          apply countP_later_eq_zero _ (List.isChain_cons_cons.mp hapart).2 hend
          intro u hu t ht
          apply (hlater u (List.mem_cons_of_mem _ hu) t ht).1
        have hw := countP_answers_le limit key w first last
        rw [List.flatMap_cons, List.countP_append, hzero]
        omega
    · rw [countP_answers_eq_zero, Nat.zero_add]
      · apply ih hlater
        apply hapart.of_cons
      · rintro t ht ⟨hle, -⟩
        apply hcall
        use t, ht

end Window

namespace RateLimiter

variable {r : RateLimiter} {key : String} {now : Instant}

/-! ### The answers in windows -/

/-- A call is allowed if fewer came before it in its window than the limit. -/
theorem check_of_current (n : Nat) {since : Instant}
    (hcurrent : (Counter.current r.counters r.window key now).count = min r.limit n)
    (hsince : (Counter.current r.counters r.window key now).since = since) :
  (r.check key now).1 = decide (n < r.limit) ∧
    Counter.find? (r.check key now).2.counters key = some ⟨key, min r.limit (n + 1), since⟩
  := by
  constructor
  · rw [check_fst, hcurrent]
    apply decide_eq_decide.mpr
    omega
  · have hkey := Counter.current_key r.counters r.window key now
    rw [find?_check_self, counted]
    generalize Counter.current r.counters r.window key now = c at hcurrent hsince hkey
    obtain ⟨_, count, _⟩ := c
    subst hcurrent hsince hkey
    congr 1
    simp only
    split
    · congr 1
      omega
    · congr 1
      omega

/-- While nobody else calls the limiter answers as the windows say, when it has the counter of the
window that is open. -/
theorem answers_following {w : Window} (rest : List Instant)
    (hfind : Counter.find? r.counters key = some ⟨key, min r.limit w.calls.length, w.opening⟩) :
  w.answers r.limit key ++ r.answers (rest.map (Event.check key))
    = (Window.following r.window w rest).flatMap (Window.answers r.limit key)
  := by
  induction rest generalizing r w with
  | nil => simp [answers, Window.following]
  | cons t rest ih =>
    rw [List.map_cons, answers, Window.following]
    cases hexpired : hasExpired r.window w.opening t with
    | true =>
      have hcurrent := Counter.current_of_expired hfind hexpired
      have hcount : (Counter.current r.counters r.window key t).count = min r.limit 0 := by
        rw [hcurrent, Nat.min_zero]
      obtain ⟨hanswer, hfind'⟩ := check_of_current 0 hcount (congrArg Counter.since hcurrent)
      have hopened := ih (r := (r.check key t).2) (w := ⟨t, []⟩) (by rw [hfind', check_limit]; rfl)
      rw [check_limit, check_window, Window.answers_opening] at hopened
      rw [if_pos rfl, List.flatMap_cons, hanswer, ← hopened]
      rfl
    | false =>
      have hcurrent := Counter.current_of_fresh hfind hexpired
      obtain ⟨hanswer, hfind'⟩ := check_of_current w.calls.length
        (congrArg Counter.count hcurrent) (congrArg Counter.since hcurrent)
      have hadded := ih (r := (r.check key t).2) (w := w.add t)
        (by rw [hfind', check_limit, Window.add_calls, List.length_append]; rfl)
      rw [check_limit, check_window, Window.add_answers] at hadded
      rw [if_neg Bool.false_ne_true, hanswer, ← hadded, List.append_assoc]
      rfl

/-- While nobody else calls a new limiter answers as the windows say. -/
theorem answers_ofCalls (limit : Nat) (window : Duration) (key : String) (calls : List Instant) :
  (new limit window).answers (calls.map (Event.check key))
    = (Window.ofCalls window calls).flatMap (Window.answers limit key)
  := by
  cases calls with
  | nil => rfl
  | cons t rest =>
    have hcurrent : Counter.current (new limit window).counters (new limit window).window key t
        = ⟨key, 0, t⟩ := rfl
    have hcount := (congrArg Counter.count hcurrent).trans (Nat.min_zero limit).symm
    obtain ⟨hanswer, hfind⟩ :=
      check_of_current (r := new limit window) 0 hcount (congrArg Counter.since hcurrent)
    have hopened := answers_following (r := ((new limit window).check key t).2) (w := ⟨t, []⟩)
      rest (by rw [hfind, check_limit]; rfl)
    rw [check_limit, check_window, Window.answers_opening] at hopened
    rw [List.map_cons, answers, hanswer]
    apply hopened

/-- In every run, whatever other clients do and whenever windows that have ended are dropped, a
client gets the answers that it would get alone.  Its calls split into windows, in each of which as
many calls as the limit are allowed and all later ones denied; so in no interval that is not longer
than a window more than twice as many are allowed.  No counter ever exceeds the limit. -/
theorem fixed_window (limit : Nat) (window : Duration) (events : List Event)
    (hordered : events.Pairwise fun e f => e.instant ≤ f.instant) :
  let start := new limit window
  (∀ c ∈ (start.run events).counters, c.count ≤ limit) ∧
    ∀ key,
      let answered := (start.answers events).filter fun a => a.key == key
      answered = start.answers ((callsOf key events).map (Event.check key)) ∧
      (∃ windows, Window.Split window (callsOf key events) windows ∧
        answered = windows.flatMap (Window.answers limit key)) ∧
      ∀ first last, last ≤ first + window →
        answered.countP (Window.isAllowedIn first last) ≤ 2 * limit
  := by
  intro start
  constructor
  · have hbounded : start.IsBounded := by
      intro c hc
      cases hc
    have hrun := hbounded.run events
    rwa [IsBounded, run_limit] at hrun
  · intro key answered
    have halone : answered = start.answers ((callsOf key events).map (Event.check key)) :=
      filter_answers (.refl key 0 start) List.nodup_nil hordered (fun _ _ => Nat.zero_le _)
    have hsplit : Window.Split window (callsOf key events)
        (Window.ofCalls window (callsOf key events)) :=
      Window.split_ofCalls (pairwise_callsOf key hordered)
    have hwindows : answered
        = (Window.ofCalls window (callsOf key events)).flatMap (Window.answers limit key) :=
      halone.trans (answers_ofCalls limit window key (callsOf key events))
    use halone, ⟨_, hsplit, hwindows⟩
    intro first last hlast
    rw [hwindows]
    apply hsplit.countP_le hlast

/-- Two clients, of which the first calls at the end of its window and right after it. -/
def atTheBoundary : List Event :=
  [.check "a" 0, .check "b" 3, .check "a" 10, .check "a" 10, .prune 11, .check "b" 11,
   .check "a" 11, .check "a" 12, .prune 30]

theorem fixed_window_boundary :
  (atTheBoundary.Pairwise fun e f => e.instant ≤ f.instant) ∧
    ((new 2 10).answers atTheBoundary).filter (fun a => a.key == "a")
      = (new 2 10).answers ([0, 10, 10, 11, 12].map (Event.check "a")) ∧
    ((new 2 10).answers ([0, 10, 10, 11, 12].map (Event.check "a"))).map Answer.isAllowed
      = [true, true, false, true, true] ∧
    (((new 2 10).answers atTheBoundary).filter fun a => a.key == "a").countP
      (Window.isAllowedIn 2 12) ≤ 2 * 2
  := by
  have hordered : atTheBoundary.Pairwise fun e f => e.instant ≤ f.instant := by decide
  obtain ⟨halone, -, hbound⟩ := (fixed_window 2 10 atTheBoundary hordered).2 "a"
  use hordered, halone, by decide
  apply hbound
  decide

end RateLimiter

end HadithService
