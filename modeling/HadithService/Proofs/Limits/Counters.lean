import HadithService.Limits.Counters
import Mathlib.Data.List.Nodup

/-!
# What the operations on counters keep

What is found under a key depends only on the counters with that key, and putting a counter under
another key leaves them as they were.  A list in which no key occurs twice stays one when a counter
is put into it or those that have expired are dropped, and at no later instant does it matter
whether they were dropped (`Counter.Distinct.current_alive`).
-/

namespace HadithService

theorem hasExpired_iff {lifetime : Duration} {since now : Instant} :
  hasExpired lifetime since now = true ↔ lifetime < now - since
  := by
  rw [hasExpired, decide_eq_true_iff]

theorem hasExpired_eq_false_iff {lifetime : Duration} {since now : Instant} :
  hasExpired lifetime since now = false ↔ now - since ≤ lifetime
  := by
  rw [Bool.eq_false_iff, ne_eq, hasExpired_iff, Nat.not_lt]

theorem hasExpired_iff_add_lt {lifetime : Duration} {since now : Instant} :
  hasExpired lifetime since now = true ↔ since + lifetime < now
  := hasExpired_iff.trans Nat.lt_sub_iff_add_lt'

theorem hasExpired_self (lifetime : Duration) (since : Instant) :
  hasExpired lifetime since since = false
  := by
  apply Bool.eq_false_iff.mpr
  rw [Ne, hasExpired_iff, Nat.sub_self]
  apply Nat.not_lt_zero

/-- What has expired stays so. -/
theorem hasExpired_mono {lifetime : Duration} {since now later : Instant} (hle : now ≤ later)
    (h : hasExpired lifetime since now = true) :
  hasExpired lifetime since later = true
  := by
  rw [hasExpired_iff] at h ⊢
  apply Nat.lt_of_lt_of_le h (Nat.sub_le_sub_right hle since)

namespace Counter

variable {counters counters' : List Counter} {c : Counter} {key : String} {lifetime : Duration}
  {now : Instant}

theorem key_of_find? (h : find? counters key = some c) :
  c.key = key
  := by
  simpa using List.find?_some h

theorem mem_of_find? (h : find? counters key = some c) :
  c ∈ counters
  := List.mem_of_find?_eq_some h

/-! ### The counters under a key -/

/-- The counters with a key. -/
def under (counters : List Counter) (key : String) : List Counter :=
  counters.filter fun c => c.key == key

theorem find?_eq_head? (counters : List Counter) (key : String) :
  find? counters key = (under counters key).head?
  := by
  rw [find?, under, List.head?_filter]

theorem find?_congr (h : under counters key = under counters' key) :
  find? counters key = find? counters' key
  := by
  rw [find?_eq_head?, find?_eq_head?, h]

theorem under_put_self (counters : List Counter) (c : Counter) :
  under (put counters c) c.key = [c]
  := by
  rw [under, put, List.filter_cons, if_pos (beq_self_eq_true c.key), List.filter_filter]
  congr 1
  apply List.filter_eq_nil_iff.mpr
  intro d _
  simp

theorem under_put_of_ne (counters : List Counter) (h : c.key ≠ key) :
  under (put counters c) key = under counters key
  := by
  have hskip : ¬ (c.key == key) = true := by simpa using h
  rw [under, put, List.filter_cons, if_neg hskip, List.filter_filter]
  apply List.filter_congr
  intro d _
  by_cases hd : d.key = key
  · simp [hd, h.symm]
  · simp [hd]

theorem under_alive (counters : List Counter) (lifetime : Duration) (key : String)
    (now : Instant) :
  under (alive counters lifetime now) key = alive (under counters key) lifetime now
  := by
  rw [under, alive, alive, under, List.filter_comm]

theorem find?_put_self (counters : List Counter) (c : Counter) :
  find? (put counters c) c.key = some c
  := by
  rw [find?_eq_head?, under_put_self]
  rfl

theorem find?_put_of_ne (counters : List Counter) (h : c.key ≠ key) :
  find? (put counters c) key = find? counters key
  := find?_congr (under_put_of_ne counters h)

/-! ### Distinct keys -/

/-- No key occurs twice. -/
def Distinct (counters : List Counter) : Prop :=
  (counters.map Counter.key).Nodup

/-- Under a key that occurs once the counter with this key is found. -/
theorem Distinct.find? (h : Distinct counters) (hc : c ∈ counters) :
  find? counters c.key = some c
  := by
  have hsome : (Counter.find? counters c.key).isSome := by
    apply List.find?_isSome.mpr
    use c, hc
    simp
  obtain ⟨d, hd⟩ := Option.isSome_iff_exists.mp hsome
  rw [hd, List.inj_on_of_nodup_map h (mem_of_find? hd) hc (key_of_find? hd)]

theorem Distinct.put (h : Distinct counters) (c : Counter) :
  Distinct (put counters c)
  := by
  rw [Distinct, Counter.put, List.map_cons, List.nodup_cons]
  constructor
  · intro hmem
    obtain ⟨d, hd, hkey⟩ := List.mem_map.mp hmem
    have hne := (List.mem_filter.mp hd).2
    simp [hkey] at hne
  · apply List.Nodup.sublist (List.filter_sublist.map _) h

theorem Distinct.alive (h : Distinct counters) (lifetime : Duration) (now : Instant) :
  Distinct (alive counters lifetime now)
  := List.Nodup.sublist (List.filter_sublist.map _) h

/-- A counter that is still found after those that have expired were dropped was there before. -/
theorem Distinct.find?_of_alive (h : Distinct counters)
    (hc : Counter.find? (Counter.alive counters lifetime now) key = some c) :
  Counter.find? counters key = some c
  := by
  rw [← key_of_find? hc]
  apply h.find?
  apply (List.mem_filter.mp (mem_of_find? hc)).1

/-- A counter that is not found after those that have expired were dropped was not there before or
has expired. -/
theorem hasExpired_of_alive (h : Counter.find? counters key = some c)
    (hnone : Counter.find? (Counter.alive counters lifetime now) key = none) :
  hasExpired lifetime c.since now = true
  := by
  by_contra hfresh
  have hmem : c ∈ Counter.alive counters lifetime now := by
    apply List.mem_filter.mpr
    use mem_of_find? h
    simpa using hfresh
  have hskip := List.find?_eq_none.mp hnone c hmem
  rw [key_of_find? h] at hskip
  apply hskip
  apply beq_self_eq_true

/-! ### The counter of a key at an instant -/

@[simp]
theorem current_key (counters : List Counter) (lifetime : Duration) (key : String)
    (now : Instant) :
  (current counters lifetime key now).key = key
  := by
  rw [current]
  cases hfind : find? counters key with
  | none => rfl
  | some c =>
    simp only
    split
    · rfl
    · apply key_of_find? hfind

/-- The counter of a key at an instant has not expired then. -/
theorem hasExpired_current (counters : List Counter) (lifetime : Duration) (key : String)
    (now : Instant) :
  hasExpired lifetime (current counters lifetime key now).since now = false
  := by
  rw [current]
  cases find? counters key with
  | none => apply hasExpired_self
  | some c =>
    simp only
    split
    · apply hasExpired_self
    · rename_i hfresh
      apply Bool.eq_false_iff.mpr hfresh

theorem current_of_none (h : find? counters key = none) :
  current counters lifetime key now = ⟨key, 0, now⟩
  := by
  rw [current, h]

theorem current_of_expired (h : find? counters key = some c)
    (hexpired : hasExpired lifetime c.since now = true) :
  current counters lifetime key now = ⟨key, 0, now⟩
  := by
  rw [current, h]
  apply if_pos hexpired

theorem current_of_fresh (h : find? counters key = some c)
    (hfresh : hasExpired lifetime c.since now = false) :
  current counters lifetime key now = c
  := by
  rw [current, h]
  apply if_neg (Bool.eq_false_iff.mp hfresh)

theorem current_congr (h : under counters key = under counters' key) (lifetime : Duration)
    (now : Instant) :
  current counters lifetime key now = current counters' lifetime key now
  := by
  rw [current, current, find?_congr h]

theorem current_put_of_ne (counters : List Counter) (h : c.key ≠ key) :
  current (put counters c) lifetime key now = current counters lifetime key now
  := current_congr (under_put_of_ne counters h) lifetime now

/-- Once counters that had expired were dropped every key has the counter that it would have. -/
theorem Distinct.current_alive (h : Distinct counters) {later : Instant} (hle : now ≤ later)
    (key : String) :
  current (Counter.alive counters lifetime now) lifetime key later
    = current counters lifetime key later
  := by
  cases halive : Counter.find? (Counter.alive counters lifetime now) key with
  | some c =>
    rw [current, current, halive, h.find?_of_alive halive]
  | none =>
    rw [current_of_none halive]
    cases hfind : Counter.find? counters key with
    | none => rw [current_of_none hfind]
    | some c =>
      have hexpired := hasExpired_of_alive hfind halive
      rw [current_of_expired hfind (hasExpired_mono hle hexpired)]

end Counter

end HadithService
