import HadithService.Editions.Rounds
import HadithService.Proofs.Editions.Progress
import Mathlib.Algebra.Order.BigOperators.Group.Finset

/-!
# Rounds come to an end

In every round in which a load is not done, one of the loads is done afterwards or has waited a
round of its answer (`Rounds.total_round_lt`): the head of a queue cannot be kept from going on by
the loads that have their turns before it, and when all queues are empty the first load that is
not done goes on.  So `Rounds.enough` rounds are enough.
-/

namespace HadithService.Rounds

open Loading (Step Orderly IsFirst IsTrue)

variable {source : EditionSource} {r r' : Rounds} {m : Move} {i j : Nat} {slug : String}

/-! ### Turns -/

theorem move_eq_some_iff :
  r.move m = some r' ↔
    ∃ t, Step r.loading r.clock m t ∧ r' = { r with loading := t, clock := r.clock + 1 }
  := by
  rw [move, Option.map_eq_some_iff]
  simp only [Loading.move_eq_some_iff, eq_comm (a := r')]

theorem callOf_eq_some_iff :
  r.callOf i = some slug ↔ ∃ k, r.loading.loads[i]? = some ⟨slug, .fetching k⟩
  := by
  rw [callOf]
  split
  · rename_i slug' k hi
    simp [hi]
  · rename_i hi
    simp only [reduceCtorEq, false_iff, not_exists]
    apply hi

/-- What every step of a load keeps holds after its turn. -/
theorem turn_induction {P : Loading → Prop} {fuel : Nat}
    (hstep : ∀ now m s t, m.load? = some i → Step s now m t → IsTrue source.edition s m →
      P s → P t)
    (h : P r.loading) :
  P (turn source i fuel r).loading
  := by
  induction fuel generalizing r with
  | zero => apply h
  | succ fuel ih =>
    rw [turn]
    cases hcall : r.callOf i with
    | some slug =>
      cases hwait : r.waitOf i (source slug) with
      | zero =>
        simp only [hwait]
        cases hmove : r.move (.answer i (source slug).outcome) with
        | none => apply h
        | some r' =>
          obtain ⟨t, ht, rfl⟩ := move_eq_some_iff.mp hmove
          apply ih
          apply hstep _ _ _ _ rfl ht _ h
          rintro _ _ ⟨⟩ l hl
          obtain ⟨k, hi⟩ := callOf_eq_some_iff.mp hcall
          rw [hi] at hl
          rw [← Option.some.inj hl]
          rfl
      | succ n =>
        simp only [hwait]
        apply h
    | none =>
      cases hmove : r.move (.advance i) with
      | none => apply h
      | some r' =>
        obtain ⟨t, ht, rfl⟩ := move_eq_some_iff.mp hmove
        apply ih
        apply hstep _ _ _ _ rfl ht _ h
        rintro _ _ ⟨⟩

/-- A turn ends when the load is done, waits for another load, or waits for its answer, of which
it then has waited one round more. -/
inductive TurnEnd (source : EditionSource) (r r' : Rounds) (i : Nat) (slug : String) : Prop where
  | done (p : Phase) (hi : r'.loading.loads[i]? = some ⟨slug, p⟩) (hp : p.rank = 0)
      (hawaited : r'.awaited = r.awaited)
  | waits (k : Nat) (hi : r'.loading.loads[i]? = some ⟨slug, .waiting k⟩)
      (hholds : r'.loading.holds i k = false) (hawaited : r'.awaited = r.awaited)
  | awaits (k n : Nat) (hi : r'.loading.loads[i]? = some ⟨slug, .fetching k⟩)
      (hwait : r.waitOf i (source slug) = n + 1)
      (hawaited : r'.awaited = (i, n) :: r.awaited.filter fun w => w.1 != i)

/-- A load that can take no step by itself, and awaits no answer, is done or waits for another
load. -/
theorem exists_of_stuck {p : Phase} (hi : r.loading.loads[i]? = some ⟨slug, p⟩)
    (hcall : r.callOf i = none) (hmove : r.move (.advance i) = none) :
  p.rank = 0 ∨ ∃ k, p = .waiting k ∧ r.loading.holds i k = false
  := by
  by_cases hp : p.rank = 0
  · left
    apply hp
  · right
    by_contra hfree
    have hall : ∀ k, p = .waiting k → r.loading.holds i k = true := by
      intro k hk
      by_contra hholds
      apply hfree
      use k, hk
      simpa using hholds
    obtain ⟨m, t, hload, hstep, -⟩ :=
      Loading.exists_step_of_free (fun _ => .ok []) r.clock hi hp hall
    cases m with
    | begin => cases hload
    | advance j =>
      cases hload
      have hsome := move_eq_some_iff.mpr ⟨t, hstep, rfl⟩
      rw [hmove] at hsome
      cases hsome
    | answer j outcome =>
      cases hload
      cases hstep with
      | answer _ hi =>
        have hsome := callOf_eq_some_iff.mpr ⟨_, hi⟩
        rw [hcall] at hsome
        cases hsome

theorem turn_end {fuel : Nat} {p : Phase} (hi : r.loading.loads[i]? = some ⟨slug, p⟩)
    (hfuel : p.rank < fuel) :
  TurnEnd source r (turn source i fuel r) i slug
  := by
  induction fuel generalizing r p with
  | zero => cases hfuel
  | succ fuel ih =>
    -- after a step the rest of the turn ends as it would have begun there
    have hgo : ∀ m t, m.load? = some i → Step r.loading r.clock m t →
        TurnEnd source r
          (turn source i fuel { r with loading := t, clock := r.clock + 1 }) i slug := by
      intro m t hload hstep
      obtain ⟨slug', p', q, hi', hloads, hlt⟩ := hstep.exists_setPhase hload
      rw [hi] at hi'
      obtain ⟨rfl, rfl⟩ := Load.mk.inj (Option.some.inj hi')
      have hi'' : t.loads[i]? = some ⟨slug, q⟩ := by rw [hloads, Loading.setPhase_self q hi]
      have hend := ih (r := { r with loading := t, clock := r.clock + 1 }) hi'' (by omega)
      cases hend with
      | done p hi hp hawaited => exact .done p hi hp hawaited
      | waits k hi hholds hawaited => exact .waits k hi hholds hawaited
      | awaits k n hi hwait hawaited => exact .awaits k n hi hwait hawaited
    rw [turn]
    cases hcall : r.callOf i with
    | some slug' =>
      obtain ⟨k, hi'⟩ := callOf_eq_some_iff.mp hcall
      have heq := hi'
      rw [hi] at heq
      obtain ⟨rfl, -⟩ := Load.mk.inj (Option.some.inj heq)
      cases hwait : r.waitOf i (source slug) with
      | zero =>
        have hmove := move_eq_some_iff.mpr ⟨_, .answer (source slug).outcome hi', rfl⟩
        simp only [hwait, hmove]
        apply hgo _ _ rfl (.answer _ hi')
      | succ n =>
        simp only [hwait]
        exact .awaits k n hi' hwait rfl
    | none =>
      cases hmove : r.move (.advance i) with
      | none =>
        rcases exists_of_stuck hi hcall hmove with hp | ⟨k, rfl, hholds⟩
        · exact .done p hi hp rfl
        · exact .waits k hi hholds rfl
      | some r' =>
        obtain ⟨t, ht, rfl⟩ := move_eq_some_iff.mp hmove
        exact hgo _ _ rfl ht

/-- A load that is done does nothing in its turn. -/
theorem turn_of_done {p : Phase} (fuel : Nat) (hi : r.loading.loads[i]? = some ⟨slug, p⟩)
    (hp : p.rank = 0) :
  turn source i fuel r = r
  := by
  cases fuel with
  | zero => rfl
  | succ fuel =>
    cases p with
    | done outcome =>
      have hcall : r.callOf i = none := by simp [callOf, hi]
      have hmove : r.move (.advance i) = none := by
        simp [move, Loading.move, Loading.advance, hi]
      rw [turn, hcall, hmove]
    | _ => cases hp

/-! ### How many rounds are left -/

/-- For how many rounds a load can still go on. -/
def left (source : EditionSource) (r : Rounds) (i : Nat) : Nat :=
  match r.loading.loads[i]? with
  | none => 0
  | some l => if l.phase.rank = 0 then 0 else r.waitOf i (source l.slug) + 1

/-- For how many rounds all loads together can still go on. -/
def total (source : EditionSource) (r : Rounds) : Nat :=
  ∑ i ∈ Finset.range r.loading.loads.length, left source r i

theorem left_of_done {p : Phase} (hi : r.loading.loads[i]? = some ⟨slug, p⟩) (hp : p.rank = 0) :
  left source r i = 0
  := by
  rw [left, hi]
  apply if_pos hp

theorem left_of_undone {p : Phase} (hi : r.loading.loads[i]? = some ⟨slug, p⟩)
    (hp : p.rank ≠ 0) :
  left source r i = r.waitOf i (source slug) + 1
  := by
  rw [left, hi]
  apply if_neg hp

theorem waitOf_congr {reply : SourceReply} (h : r'.awaited = r.awaited) :
  r'.waitOf i reply = r.waitOf i reply
  := by
  rw [waitOf, waitOf, h]

/-- A turn leaves no more rounds to a load. -/
theorem left_turn_le {p : Phase} (hi : r.loading.loads[i]? = some ⟨slug, p⟩) :
  left source (turn source i 10 r) i ≤ left source r i
  := by
  by_cases hp : p.rank = 0
  · rw [turn_of_done 10 hi hp]
  · rw [left_of_undone hi hp]
    cases turn_end hi (Nat.lt_succ_of_le p.rank_le) with
    | done q hi' hq =>
      rw [left_of_done hi' hq]
      apply Nat.zero_le
    | waits k hi' hholds hawaited =>
      rw [left_of_undone hi' (Nat.succ_ne_zero _), waitOf_congr hawaited]
    | awaits k n hi' hwait hawaited =>
      rw [left_of_undone hi' (Nat.succ_ne_zero _), hwait, waitOf, hawaited]
      simp

/-- A turn leaves fewer rounds to a load that goes first and is not done. -/
theorem left_turn_lt {p : Phase} (horderly : Orderly r.loading)
    (hi : r.loading.loads[i]? = some ⟨slug, p⟩) (hp : p.rank ≠ 0) (hfirst : IsFirst i r.loading) :
  left source (turn source i 10 r) i < left source r i
  := by
  have hend : Orderly (turn source i 10 r).loading ∧ IsFirst i (turn source i 10 r).loading := by
    apply turn_induction (P := fun s => Orderly s ∧ IsFirst i s) _ ⟨horderly, hfirst⟩
    rintro now m s t hload hstep - ⟨hs, hfirst⟩
    use hs.step hstep, hfirst.step hs hstep hload
  rw [left_of_undone hi hp]
  cases turn_end hi (Nat.lt_succ_of_le p.rank_le) with
  | done q hi' hq =>
    rw [left_of_done hi' hq]
    apply Nat.zero_lt_succ
  | waits k hi' hholds =>
    rw [hend.2.holds hend.1 hi'] at hholds
    cases hholds
  | awaits k n hi' hwait hawaited =>
    rw [left_of_undone hi' (Nat.succ_ne_zero _), hwait, waitOf, hawaited]
    simp

/-- A turn does not matter to the other loads. -/
theorem left_turn_of_ne {p : Phase} (hi : r.loading.loads[i]? = some ⟨slug, p⟩) (hj : j ≠ i) :
  left source (turn source i 10 r) j = left source r j
  := by
  have hloads : (turn source i 10 r).loading.loads[j]? = r.loading.loads[j]? := by
    apply turn_induction (P := fun s => s.loads[j]? = r.loading.loads[j]?) _ rfl
    intro now m s t hload hstep _ hs
    obtain ⟨slug, p, q, hi, hloads, -⟩ := hstep.exists_setPhase hload
    rw [hloads, Loading.setPhase_of_ne q hj, hs]
  have hwait : ∀ reply, (turn source i 10 r).waitOf j reply = r.waitOf j reply := by
    intro reply
    cases turn_end hi (Nat.lt_succ_of_le p.rank_le) with
    | done q hi' hq hawaited => apply waitOf_congr hawaited
    | waits k hi' hholds hawaited => apply waitOf_congr hawaited
    | awaits k n hi' hwait hawaited =>
      have hskip : ¬ (i == j) = true := by simpa using hj.symm
      rw [waitOf, waitOf, hawaited, List.find?_cons, Bool.eq_false_iff.mpr hskip]
      simp only [List.find?_filter]
      congr 3
      funext w
      by_cases hw : w.1 = j
      · simp [hw, hj]
      · simp [hw]
  rw [left, left, hloads]
  simp only [hwait]

theorem length_turn (r : Rounds) (i : Nat) :
  (turn source i 10 r).loading.loads.length = r.loading.loads.length
  := by
  apply turn_induction (P := fun s => s.loads.length = r.loading.loads.length) _ rfl
  intro now m s t hload hstep _ hs
  rw [hstep.length_loads hload, hs]

theorem total_turn_le (hi : i < r.loading.loads.length) :
  total source (turn source i 10 r) ≤ total source r
  := by
  obtain ⟨⟨slug, p⟩, hl⟩ : ∃ l, r.loading.loads[i]? = some l := ⟨_, List.getElem?_eq_getElem hi⟩
  rw [total, total, length_turn]
  apply Finset.sum_le_sum
  intro j _
  by_cases hj : j = i
  · subst hj
    apply left_turn_le hl
  · rw [left_turn_of_ne hl hj]

theorem total_turn_lt {p : Phase} (horderly : Orderly r.loading)
    (hi : r.loading.loads[i]? = some ⟨slug, p⟩) (hp : p.rank ≠ 0) (hfirst : IsFirst i r.loading) :
  total source (turn source i 10 r) < total source r
  := by
  rw [total, total, length_turn]
  apply Finset.sum_lt_sum
  · intro j _
    by_cases hj : j = i
    · subst hj
      apply left_turn_le hi
    · rw [left_turn_of_ne hi hj]
  · use i
    use Finset.mem_range.mpr (List.getElem?_eq_some_iff.mp hi).1
    apply left_turn_lt horderly hi hp hfirst

/-! ### Rounds -/

theorem orderly_turn (horderly : Orderly r.loading) (i : Nat) :
  Orderly (turn source i 10 r).loading
  := turn_induction (fun _ _ _ _ _ hstep _ hs => hs.step hstep) horderly

/-- Some load is to have its turn that can go on then, whatever happens before. -/
def HasNext (turns : List Nat) (s : Loading) : Prop :=
  (∃ j ∈ turns, ∃ k, (s.queue k).head? = some j) ∨
    ((∀ k, s.queue k = []) ∧ ∃ j ∈ turns, ∃ l, s.loads[j]? = some l ∧ l.phase.rank ≠ 0)

theorem total_foldl_le {turns : List Nat} (hturns : ∀ i ∈ turns, i < r.loading.loads.length) :
  total source (turns.foldl (fun r i => turn source i 10 r) r) ≤ total source r
  := by
  induction turns generalizing r with
  | nil => apply Nat.le_refl
  | cons i turns ih =>
    rw [List.foldl_cons]
    apply le_trans (ih _) (total_turn_le (hturns i List.mem_cons_self))
    intro j hj
    rw [length_turn]
    apply hturns j (List.mem_cons_of_mem _ hj)

/-- Turns leave fewer rounds when some load can go on in them. -/
theorem total_foldl_lt {turns : List Nat} (horderly : Orderly r.loading)
    (hturns : ∀ i ∈ turns, i < r.loading.loads.length) (hnext : HasNext turns r.loading) :
  total source (turns.foldl (fun r i => turn source i 10 r) r) < total source r
  := by
  induction turns generalizing r with
  | nil =>
    rcases hnext with ⟨j, hj, -⟩ | ⟨-, j, hj, -⟩
    · cases hj
    · cases hj
  | cons i turns ih =>
    have hlt := hturns i List.mem_cons_self
    have hrest : ∀ j ∈ turns, j < (turn source i 10 r).loading.loads.length := by
      intro j hj
      rw [length_turn]
      apply hturns j (List.mem_cons_of_mem _ hj)
    obtain ⟨⟨slug, p⟩, hi⟩ : ∃ l, r.loading.loads[i]? = some l := ⟨_, List.getElem?_eq_getElem hlt⟩
    rw [List.foldl_cons]
    by_cases hgo : p.rank ≠ 0 ∧ IsFirst i r.loading
    · apply lt_of_le_of_lt (total_foldl_le hrest)
      apply total_turn_lt horderly hi hgo.1 hgo.2
    · apply lt_of_lt_of_le (ih (orderly_turn horderly i) hrest _) (total_turn_le hlt)
      rcases hnext with ⟨j, hj, k, hhead⟩ | ⟨hempty, j, hj, l, hl, hrank⟩
      · left
        have hji : j ≠ i := by
          rintro rfl
          obtain ⟨l, hl, hk⟩ := horderly.of_head hhead
          apply hgo
          constructor
          · intro hrank
            rw [hi] at hl
            obtain rfl := Option.some.inj hl
            cases p with
            | done => cases hk
            | _ => cases hrank
          · left
            use k, hhead
        use j, (List.mem_cons.mp hj).resolve_left hji, k
        apply (turn_induction (P := fun s => Orderly s ∧ (s.queue k).head? = some j) _
          ⟨horderly, hhead⟩).2
        rintro now m s t hload hstep - ⟨hs, hhead⟩
        use hs.step hstep, hs.head_of_step hstep hload hji hhead
      · have hdone : p.rank = 0 := by
          by_contra hp
          apply hgo ⟨hp, Or.inr (Or.inl hempty)⟩
        rw [turn_of_done 10 hi hdone]
        right
        use hempty, j
        constructor
        · apply (List.mem_cons.mp hj).resolve_left
          rintro rfl
          rw [hi] at hl
          obtain rfl := Option.some.inj hl
          apply hrank hdone
        · use l, hl, hrank

/-- As long as a load is not done, every round leaves fewer rounds. -/
theorem total_round_lt (horderly : Orderly r.loading) (hs : r.loading.isSettled = false) :
  total source (r.round source) < total source r
  := by
  apply total_foldl_lt horderly
  · intro i hi
    apply List.mem_range.mp hi
  · by_cases hempty : ∀ k, r.loading.queue k = []
    · right
      obtain ⟨l, hl, hdone⟩ := List.all_eq_false.mp hs
      obtain ⟨i, hi⟩ := List.mem_iff_getElem?.mp hl
      use hempty, i
      use List.mem_range.mpr (List.getElem?_eq_some_iff.mp hi).1, l, hi
      intro hrank
      apply hdone (Loading.outcome?_isSome_iff.mpr hrank)
    · left
      obtain ⟨k, hk⟩ := not_forall.mp hempty
      have hhead := List.head?_eq_some_head hk
      obtain ⟨l, hl, -⟩ := horderly.of_head hhead
      use (r.loading.queue k).head hk
      use List.mem_range.mpr (List.getElem?_eq_some_iff.mp hl).1, k

/-- What every step of a load keeps holds after a round. -/
theorem round_induction {P : Loading → Prop}
    (hstep : ∀ now m i s t, m.load? = some i → Step s now m t → IsTrue source.edition s m →
      P s → P t)
    (h : P r.loading) :
  P (r.round source).loading
  := by
  rw [round]
  generalize List.range r.loading.loads.length = turns
  induction turns generalizing r with
  | nil => apply h
  | cons i turns ih =>
    apply ih
    apply turn_induction _ h
    intro now m s t hload
    apply hstep now m i s t hload

/-- What every step of a load keeps holds when the rounds are over. -/
theorem settle_induction {P : Loading → Prop} {fuel : Nat}
    (hstep : ∀ now m i s t, m.load? = some i → Step s now m t → IsTrue source.edition s m →
      P s → P t)
    (h : P r.loading) :
  P (settle source fuel r).loading
  := by
  induction fuel generalizing r with
  | zero => apply h
  | succ fuel ih =>
    rw [settle]
    split
    · apply h
    · apply ih
      apply round_induction hstep h

/-- All loads are done after as many rounds as were left. -/
theorem isSettled_settle {fuel : Nat} (horderly : Orderly r.loading)
    (hfuel : total source r ≤ fuel) :
  (settle source fuel r).loading.isSettled = true
  := by
  induction fuel generalizing r with
  | zero =>
    rw [settle]
    by_contra hs
    have hlt : total source (r.round source) < total source r :=
      total_round_lt horderly (Bool.eq_false_iff.mpr hs)
    omega
  | succ fuel ih =>
    rw [settle]
    split
    · rename_i hs
      apply hs
    · rename_i hs
      have hlt : total source (r.round source) < total source r :=
        total_round_lt horderly (Bool.eq_false_iff.mpr hs)
      apply ih
      · apply round_induction _ horderly
        intro now m i s t _ hstep _ hs
        apply hs.step hstep
      · omega

/-- There are no more rounds left to loads for whose answers nobody has waited than are enough. -/
theorem total_lt_enough (source : EditionSource) (s : Loading) (clock : Instant) :
  total source ⟨s, clock, []⟩ < enough source s.loads
  := by
  suffices h : ∀ loads : List Load, ∑ i ∈ Finset.range loads.length,
      left source ⟨{ s with loads := loads }, clock, []⟩ i < enough source loads from h s.loads
  intro loads
  induction loads using List.reverseRecOn with
  | nil => exact Nat.zero_lt_one
  | append_singleton loads l ih =>
    have hlast : left source ⟨{ s with loads := loads ++ [l] }, clock, []⟩ loads.length
        ≤ (source l.slug).rounds + 1 := by
      simp only [left, List.getElem?_concat_length, waitOf, List.find?_nil]
      split
      · apply Nat.zero_le
      · apply Nat.le_refl
    have hfirst : ∑ i ∈ Finset.range loads.length,
        left source ⟨{ s with loads := loads ++ [l] }, clock, []⟩ i
          = ∑ i ∈ Finset.range loads.length, left source ⟨{ s with loads := loads }, clock, []⟩ i := by
      apply Finset.sum_congr rfl
      intro i hi
      simp only [left, List.getElem?_append_left (Finset.mem_range.mp hi), waitOf]
    have henough : enough source (loads ++ [l]) = enough source loads + (source l.slug).rounds + 1 := by
      rw [enough, List.foldl_append]
      rfl
    rw [List.length_append, List.length_singleton, Finset.sum_range_succ, hfirst,
      henough]
    omega

end HadithService.Rounds
