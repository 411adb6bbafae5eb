import HadithService.Proofs.Editions.Faithful
import HadithService.Proofs.Editions.Queues
import Mathlib.Algebra.BigOperators.Group.List.Basic
import Mathlib.Algebra.Ring.Nat

/-!
# Loads come to an end

A load takes at most nine steps (`Loading.Step.rank_lt`), and as long as one is not done some load
can take a step (`Loading.Orderly.exists_step`): the one that waits for a lock waits for the head
of a queue, and the head of a queue does not wait for anybody.
-/

namespace HadithService

/-- How many steps a load still has to take at most. -/
def Phase.rank : Phase → Nat
  | .begun => 9
  | .missed => 8
  | .found _ => 7
  | .waiting _ => 6
  | .missedAgain _ => 5
  | .fetching _ => 4
  | .fetched _ _ => 3
  | .stored _ _ => 2
  | .leaving _ _ => 1
  | .done _ => 0

theorem Phase.rank_le (p : Phase) :
  p.rank ≤ 9
  := by
  cases p with
  | _ => simp [rank]

/-- A load is done when it has no more steps to take. -/
theorem Loading.outcome?_isSome_iff {l : Load} :
  (outcome? l).isSome = true ↔ l.phase.rank = 0
  := by
  obtain ⟨slug, p⟩ := l
  cases p with
  | _ => simp [outcome?, Phase.rank]

namespace Loading

variable {s t : Loading} {now : Instant} {m : Move} {i j k : Nat} {slug : String}

/-! ### Counting loads by their phases -/

/-- The sum of what the phases of all loads weigh. -/
def tally (w : Phase → Nat) (s : Loading) : Nat :=
  (s.loads.map fun l => w l.phase).sum

theorem tally_setPhase (w : Phase → Nat) {p q : Phase} (hi : s.loads[i]? = some ⟨slug, q⟩) :
  (s.setPhase i p).tally w + w q = s.tally w + w p
  := by
  obtain ⟨hlt, hget⟩ := List.getElem?_eq_some_iff.mp hi
  obtain ⟨before, l, after, hsplit, hlength, hmodify⟩ :=
    List.exists_of_modify (fun l : Load => { l with phase := p }) hlt
  have hl : l = ⟨slug, q⟩ := by
    rw [hsplit, ← hlength] at hi
    simpa using hi
  rw [tally, tally, setPhase, hmodify, hsplit, hl]
  simp only [List.map_append, List.map_cons, List.sum_append, List.sum_cons]
  omega

/-- New loads weigh the same each. -/
theorem tally_begin (w : Phase → Nat) (s : Loading) (slugs : List String) :
  tally w { s with loads := s.loads ++ slugs.map fun slug => ⟨slug, .begun⟩ }
    = s.tally w + w .begun * slugs.length
  := by
  rw [tally, tally, List.map_append, List.sum_append, List.map_map]
  simp only [Function.comp_def, List.map_const', List.sum_const_nat, Nat.mul_comm]

/-! ### The number of steps -/

/-- How many steps some loads still have to take at most. -/
def stepsOf : List Load → Nat
  | [] => 0
  | l :: rest => l.phase.rank + stepsOf rest

/-- How many steps all loads still have to take at most. -/
def rank (s : Loading) : Nat :=
  stepsOf s.loads

theorem stepsOf_eq_sum (loads : List Load) :
  stepsOf loads = (loads.map fun l => l.phase.rank).sum
  := by
  induction loads with
  | nil => rfl
  | cons l loads ih => rw [stepsOf, ih, List.map_cons, List.sum_cons]

theorem rank_eq_tally (s : Loading) :
  s.rank = s.tally Phase.rank
  := by
  rw [rank, tally, stepsOf_eq_sum]

theorem rank_setPhase {p q : Phase} (hi : s.loads[i]? = some ⟨slug, q⟩) :
  (s.setPhase i p).rank + q.rank = s.rank + p.rank
  := by
  rw [rank_eq_tally, rank_eq_tally]
  apply tally_setPhase Phase.rank hi

/-- A step of a load puts it into a later phase, and the other loads stay where they are. -/
theorem Step.exists_setPhase (h : Step s now m t) (hload : m.load? = some i) :
  ∃ slug p q, s.loads[i]? = some ⟨slug, p⟩ ∧ t.loads = (s.setPhase i q).loads ∧ q.rank < p.rank
  := by
  have hgo : ∀ {j : Nat} {slug : String} {p : Phase} (q : Phase), some j = some i →
      s.loads[j]? = some ⟨slug, p⟩ → t.loads = (s.setPhase j q).loads → q.rank < p.rank →
      ∃ slug p q, s.loads[i]? = some ⟨slug, p⟩ ∧ t.loads = (s.setPhase i q).loads ∧
        q.rank < p.rank := by
    rintro j slug p q ⟨⟩ hi hloads hlt
    use slug, p, q
  cases h with
  | begin => cases hload
  | hit hi => exact hgo (.done _) hload hi rfl (Nat.zero_lt_succ _)
  | miss hi => exact hgo .missed hload hi rfl (Nat.lt_succ_self _)
  | take hi => exact hgo (.found _) hload hi rfl (Nat.lt_succ_self _)
  | make hi => exact hgo (.found _) hload hi rfl (Nat.lt_succ_self _)
  | enqueue hi => exact hgo (.waiting _) hload hi rfl (Nat.lt_succ_self _)
  | @hitAgain _ _ k hadiths hi =>
    have hlt : (Phase.leaving k (.ok hadiths)).rank < (Phase.waiting k).rank := by simp [Phase.rank]
    exact hgo (.leaving _ _) hload hi rfl hlt
  | missAgain hi => exact hgo (.missedAgain _) hload hi rfl (Nat.lt_succ_self _)
  | call hi => exact hgo (.fetching _) hload hi rfl (Nat.lt_succ_self _)
  | answer outcome hi => exact hgo (.fetched _ _) hload hi rfl (Nat.lt_succ_self _)
  | @store _ slug k outcome hi =>
    cases outcome with
    | error e => exact hgo (.stored _ _) hload hi rfl (Nat.lt_succ_self _)
    | ok hadiths => exact hgo (.stored _ _) hload hi rfl (Nat.lt_succ_self _)
  | release hi => exact hgo (.leaving _ _) hload hi rfl (Nat.lt_succ_self _)
  | leave hi => exact hgo (.done _) hload hi rfl (Nat.lt_succ_self _)

/-- A step of a load leaves fewer steps. -/
theorem Step.rank_lt (h : Step s now m t) (hload : m.load? = some i) :
  t.rank < s.rank
  := by
  obtain ⟨slug, p, q, hi, hloads, hlt⟩ := h.exists_setPhase hload
  have hrank : t.rank = (s.setPhase i q).rank := by rw [rank, rank, hloads]
  have hsum := rank_setPhase (p := q) hi
  omega

/-- So a run of loads takes no more steps than they had to take at most. -/
theorem length_add_rank_le {steps : List (Instant × Move)}
    (hsteps : ∀ step ∈ steps, step.2.load?.isSome = true) (hrun : s.run steps = some t) :
  steps.length + t.rank ≤ s.rank
  := by
  induction steps generalizing s with
  | nil =>
    obtain rfl := Option.some.inj hrun
    rw [List.length_nil, Nat.zero_add]
  | cons step steps ih =>
    obtain ⟨now, m⟩ := step
    obtain ⟨u, hstep, hrun⟩ := run_cons_eq_some_iff.mp hrun
    obtain ⟨hm, hsteps⟩ := List.forall_mem_cons.mp hsteps
    obtain ⟨i, hload⟩ := Option.isSome_iff_exists.mp hm
    have hle := ih hsteps hrun
    have hlt := hstep.rank_lt hload
    rw [List.length_cons]
    omega

theorem Step.length_loads (h : Step s now m t) (hload : m.load? = some i) :
  t.loads.length = s.loads.length
  := by
  obtain ⟨slug, p, q, -, hloads, -⟩ := h.exists_setPhase hload
  rw [hloads, setPhase, List.length_modify]

/-- New loads add nine steps each. -/
theorem rank_begin (s : Loading) (slugs : List String) :
  rank { s with loads := s.loads ++ slugs.map fun slug => ⟨slug, .begun⟩ }
    = s.rank + 9 * slugs.length
  := by
  rw [rank_eq_tally, rank_eq_tally]
  apply tally_begin Phase.rank s slugs

/-! ### Some load can go on -/

variable {edition : String → Fetched}

/-- A load that is not done and does not wait for another one can take a step. -/
theorem exists_step_of_free {p : Phase} (edition : String → Fetched) (now : Instant)
    (hi : s.loads[i]? = some ⟨slug, p⟩) (hp : p.rank ≠ 0)
    (hfree : ∀ k, p = .waiting k → s.holds i k = true) :
  ∃ m t, m.load? = some i ∧ Step s now m t ∧ IsTrue edition s m
  := by
  have hadvance : ∀ t, Step s now (.advance i) t →
      ∃ m t, m.load? = some i ∧ Step s now m t ∧ IsTrue edition s m := by
    intro t ht
    use .advance i, t, rfl, ht
    rintro _ _ ⟨⟩
  cases p with
  | begun =>
    rcases hpeek : s.cache.peek slug now with _ | hadiths
    · apply hadvance _ (.miss hi hpeek)
    · apply hadvance _ (.hit hi hpeek)
  | missed =>
    rcases hlock : s.lock? slug with _ | k
    · apply hadvance _ (.make hi hlock)
    · apply hadvance _ (.take hi hlock)
  | found k => apply hadvance _ (.enqueue hi)
  | waiting k =>
    rcases hpeek : s.cache.peek slug now with _ | hadiths
    · apply hadvance _ (.missAgain hi (hfree k rfl) hpeek)
    · apply hadvance _ (.hitAgain hi (hfree k rfl) hpeek)
  | missedAgain k => apply hadvance _ (.call hi)
  | fetching k =>
    use .answer i (edition slug), s.setPhase i (.fetched k (edition slug)), rfl, .answer _ hi
    rintro _ _ ⟨⟩ l hl
    rw [hi] at hl
    rw [← Option.some.inj hl]
  | fetched k outcome => apply hadvance _ (.store hi)
  | stored k outcome => apply hadvance _ (.release hi)
  | leaving k outcome => apply hadvance _ (.leave hi)
  | done outcome => cases hp rfl

/-- The head of a queue can take a step. -/
theorem Orderly.exists_step_of_head (h : Orderly s) (edition : String → Fetched) (now : Instant)
    (hhead : (s.queue k).head? = some i) :
  ∃ m t, m.load? = some i ∧ Step s now m t ∧ IsTrue edition s m
  := by
  obtain ⟨⟨slug, p⟩, hi, hk⟩ := h.of_head hhead
  apply exists_step_of_free edition now hi
  · intro hp
    cases p with
    | done => cases hk
    | _ => cases hp
  · rintro k' rfl
    obtain rfl := Option.some.inj hk
    apply holds_iff.mpr hhead

/-- There is a head of the queue that a load waits in. -/
theorem Orderly.exists_head (h : Orderly s) (hi : s.loads[i]? = some ⟨slug, .waiting k⟩) :
  ∃ j, (s.queue k).head? = some j
  := by
  have hmem : i ∈ s.queue k := (h.mem_queue hi).mpr rfl
  use (s.queue k).head (List.ne_nil_of_mem hmem)
  apply List.head?_eq_some_head

/-- As long as a load is not done, some load can take a step. -/
theorem Orderly.exists_step (h : Orderly s) (edition : String → Fetched) (now : Instant)
    (hs : s.isSettled = false) :
  ∃ i m t, m.load? = some i ∧ Step s now m t ∧ IsTrue edition s m
  := by
  obtain ⟨⟨slug, p⟩, hl, hdone⟩ := List.all_eq_false.mp hs
  obtain ⟨i, hi⟩ := List.mem_iff_getElem?.mp hl
  have hp : p.rank ≠ 0 := fun hp => hdone (outcome?_isSome_iff.mpr hp)
  by_cases hwaits : ∃ k, p = .waiting k
  · obtain ⟨k, rfl⟩ := hwaits
    obtain ⟨j, hhead⟩ := h.exists_head hi
    use j
    apply h.exists_step_of_head edition now hhead
  · use i
    apply exists_step_of_free edition now hi hp
    intro k hk
    cases hwaits ⟨k, hk⟩

/-! ### Who goes first -/

/-- What a step of a load does to a queue: nothing, or the load queues up, or it leaves the front
of the queue and is done. -/
theorem Orderly.queue_cases (h : Orderly s) (hstep : Step s now m t) (hload : m.load? = some i)
    (k : Nat) :
  t.queue k = s.queue k ∨ t.queue k = s.queue k ++ [i] ∨
    (s.queue k = i :: t.queue k ∧ ∃ l, t.loads[i]? = some l ∧ l.phase.rank = 0)
  := by
  cases hstep with
  | begin => cases hload
  | make =>
    left
    exact queue_of_new rfl
  | @enqueue _ slug k' hi =>
    cases hload
    have hmodify := queue_modify (s := s) (j := k) (· ++ [i]) (h.lt_of_lock i _ k' hi rfl)
    by_cases hk : k = k'
    · right
      left
      exact hmodify.trans (if_pos hk)
    · left
      exact hmodify.trans (if_neg hk)
  | @store _ slug k' outcome hi =>
    left
    cases outcome with
    | error e => rfl
    | ok hadiths => rfl
  | @leave _ slug k' outcome hi =>
    cases hload
    have hmodify := queue_modify (s := s) (j := k) List.tail (h.lt_of_lock i _ k' hi rfl)
    by_cases hk : k = k'
    · right
      right
      obtain ⟨rest, hrest⟩ := List.head?_eq_some_iff.mp (h.head_of_held i _ k' hi rfl)
      constructor
      · have htail : (s.queue k).tail = rest := by rw [hk, hrest, List.tail_cons]
        rw [hk, hrest, ← htail, ← hmodify.trans (if_pos hk), ← hk]
        rfl
      · use ⟨slug, .done outcome⟩, setPhase_self _ hi
        rfl
    · left
      exact hmodify.trans (if_neg hk)
  | _ =>
    left
    rfl

/-- A load stays at the head of a queue while other loads go on. -/
theorem Orderly.head_of_step (h : Orderly s) (hstep : Step s now m t) (hload : m.load? = some i)
    (hj : j ≠ i) (hhead : (s.queue k).head? = some j) :
  (t.queue k).head? = some j
  := by
  rcases h.queue_cases hstep hload k with hk | hk | ⟨hk, -⟩
  · rw [hk, hhead]
  · rw [hk, List.head?_append, hhead]
    rfl
  · rw [hk] at hhead
    cases hj (Option.some.inj hhead).symm

/-- No other load keeps a load from being done. -/
def IsFirst (i : Nat) (s : Loading) : Prop :=
  (∃ k, (s.queue k).head? = some i) ∨ (∀ k, s.queue k = []) ∨
    ∃ l, s.loads[i]? = some l ∧ l.phase.rank = 0

/-- A load that goes first does so until it is done. -/
theorem IsFirst.step (h : IsFirst i s) (horderly : Orderly s) (hstep : Step s now m t)
    (hload : m.load? = some i) :
  IsFirst i t
  := by
  rcases h with ⟨k, hhead⟩ | hempty | ⟨l, hl, hrank⟩
  · rcases horderly.queue_cases hstep hload k with hk | hk | ⟨-, hdone⟩
    · left
      use k
      rw [hk, hhead]
    · left
      use k
      rw [hk, List.head?_append, hhead]
      rfl
    · right
      right
      apply hdone
  · by_cases hall : ∀ k, t.queue k = []
    · right
      left
      apply hall
    · left
      obtain ⟨k, hk⟩ := not_forall.mp hall
      use k
      rcases horderly.queue_cases hstep hload k with hsame | hjoin | ⟨hleave, -⟩
      · rw [hsame, hempty] at hk
        cases hk rfl
      · rw [hjoin, hempty]
        rfl
      · rw [hempty] at hleave
        cases hleave
  · obtain ⟨slug, p, q, hi, -, hlt⟩ := hstep.exists_setPhase hload
    rw [hi] at hl
    obtain rfl := Option.some.inj hl
    rw [hrank] at hlt
    cases hlt

/-- A load that goes first does not wait for another one. -/
theorem IsFirst.holds (h : IsFirst i s) (horderly : Orderly s)
    (hi : s.loads[i]? = some ⟨slug, .waiting k⟩) :
  s.holds i k = true
  := by
  rcases h with ⟨k', hhead⟩ | hempty | ⟨l, hl, hrank⟩
  · have hk := (horderly.mem_queue hi).mp (List.mem_of_head? hhead)
    obtain rfl := Option.some.inj hk
    apply holds_iff.mpr hhead
  · have hmem : i ∈ s.queue k := (horderly.mem_queue hi).mpr rfl
    rw [hempty] at hmem
    cases hmem
  · rw [hi] at hl
    obtain rfl := Option.some.inj hl
    cases hrank

end Loading

end HadithService
