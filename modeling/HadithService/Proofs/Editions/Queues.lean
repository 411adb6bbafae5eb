import HadithService.Proofs.Editions.Loading

/-!
# The queues of the locks

In every state that loads can reach, a queue names exactly the loads whose phase says that they
stand in it, each of them once, and a load that has passed the front of its queue is its head
(`Loading.Orderly`).  So a lock is held by one load at a time.
-/

namespace HadithService

namespace Phase

/-- The lock in whose queue a load stands. -/
def queue? : Phase → Option Nat
  | .waiting k => some k
  | .missedAgain k => some k
  | .fetching k => some k
  | .fetched k _ => some k
  | .stored k _ => some k
  | .leaving k _ => some k
  | _ => none

/-- The lock that a load holds. -/
def held? : Phase → Option Nat
  | .waiting _ => none
  | p => p.queue?

/-- The lock that a load has got. -/
def lock? : Phase → Option Nat
  | .found k => some k
  | p => p.queue?

theorem queue?_of_held? {p : Phase} {k : Nat} (h : p.held? = some k) :
  p.queue? = some k
  := by
  cases p with
  | waiting => cases h
  | _ => apply h

theorem lock?_of_queue? {p : Phase} {k : Nat} (h : p.queue? = some k) :
  p.lock? = some k
  := by
  cases p with
  | found => cases h
  | _ => apply h

end Phase

namespace Loading

variable {s t : Loading} {now : Instant} {m : Move} {i j k : Nat} {slug : String}

/-- The queue of a lock. -/
def queue (s : Loading) (k : Nat) : List Nat :=
  s.queues[k]?.getD []

theorem holds_iff :
  s.holds i k = true ↔ (s.queue k).head? = some i
  := by
  rw [holds, queue]
  cases s.queues[k]? with
  | none => simp
  | some q => simp

/-- Nobody stands in the queue of a new lock. -/
theorem queue_of_new (h : t.queues = s.queues ++ [[]]) :
  t.queue k = s.queue k
  := by
  rw [queue, queue, h]
  rcases Nat.lt_trichotomy k s.queues.length with hk | rfl | hk
  · rw [List.getElem?_append_left hk]
  · simp
  · rw [List.getElem?_eq_none (by simp; omega), List.getElem?_eq_none (by omega)]

theorem queue_modify (f : List Nat → List Nat) (hk : k < s.queues.length) :
  { s with queues := s.queues.modify k f }.queue j = if j = k then f (s.queue j) else s.queue j
  := by
  rw [queue, queue, List.getElem?_modify]
  by_cases hj : k = j
  · subst hj
    rw [List.getElem?_eq_getElem hk]
    simp
  · simp [hj, Ne.symm hj]

/-- The queues and the phases of the loads agree. -/
structure Orderly (s : Loading) : Prop where
  /-- The locks on the table have a queue. -/
  lt_of_table : ∀ e ∈ s.table, e.2 < s.queues.length
  /-- The locks that loads have got have a queue. -/
  lt_of_lock : ∀ (i : Nat) (l : Load) (k : Nat), s.loads[i]? = some l → l.phase.lock? = some k →
    k < s.queues.length
  /-- A queue names the loads that stand in it. -/
  mem_queue_iff : ∀ (i k : Nat), i ∈ s.queue k ↔ ∃ l, s.loads[i]? = some l ∧ l.phase.queue? = some k
  /-- A queue names a load once. -/
  nodup : ∀ k, (s.queue k).Nodup
  /-- The load that holds a lock is at the head of its queue. -/
  head_of_held : ∀ (i : Nat) (l : Load) (k : Nat), s.loads[i]? = some l → l.phase.held? = some k →
    (s.queue k).head? = some i

namespace Orderly

/-- A lock is held by one load at a time. -/
theorem held_unique (h : Orderly s) {l l' : Load} (hi : s.loads[i]? = some l)
    (hk : l.phase.held? = some k) (hj : s.loads[j]? = some l') (hk' : l'.phase.held? = some k) :
  i = j
  := by
  have hhead := h.head_of_held i l k hi hk
  rw [h.head_of_held j l' k hj hk'] at hhead
  apply (Option.some.inj hhead).symm

/-- The head of a queue is a load that stands in it. -/
theorem of_head (h : Orderly s) (hhead : (s.queue k).head? = some i) :
  ∃ l, s.loads[i]? = some l ∧ l.phase.queue? = some k
  := (h.mem_queue_iff i k).mp (List.mem_of_head? hhead)

/-! ### What keeps the queues in order -/

theorem idle (cache : EditionCache) :
  Orderly (idle cache)
  where
    lt_of_table := by simp [Loading.idle]
    lt_of_lock := by simp [Loading.idle]
    mem_queue_iff := by simp [Loading.idle, queue]
    nodup := by simp [Loading.idle, queue]
    head_of_held := by simp [Loading.idle]

/-- The cache and the calls do not matter, and locks may be taken off the table. -/
theorem of_eq (h : Orderly s) (hloads : t.loads = s.loads) (hqueues : t.queues = s.queues)
    (htable : ∀ e ∈ t.table, e ∈ s.table) :
  Orderly t
  := by
  have hqueue : ∀ k, t.queue k = s.queue k := by simp [queue, hqueues]
  constructor
  · intro e he
    rw [hqueues]
    apply h.lt_of_table e (htable e he)
  · rw [hloads, hqueues]
    apply h.lt_of_lock
  · intro i k
    rw [hloads, hqueue]
    apply h.mem_queue_iff
  · intro k
    rw [hqueue]
    apply h.nodup
  · intro i l k
    rw [hloads, hqueue]
    apply h.head_of_held

/-- New loads may begin. -/
theorem begin (h : Orderly s) (slugs : List String) :
  Orderly { s with loads := s.loads ++ slugs.map fun slug => ⟨slug, .begun⟩ }
  := by
  constructor
  · apply h.lt_of_table
  · intro i l k hl hk
    rcases getElem?_begun hl with hl | ⟨slug, -, rfl⟩
    · apply h.lt_of_lock i l k hl hk
    · cases hk
  · intro i k
    apply (h.mem_queue_iff i k).trans
    constructor
    · rintro ⟨l, hl, hk⟩
      use l
      rw [List.getElem?_append_left (List.getElem?_eq_some_iff.mp hl).1]
      use hl, hk
    · rintro ⟨l, hl, hk⟩
      rcases getElem?_begun hl with hl | ⟨slug, -, rfl⟩
      · use l, hl, hk
      · cases hk
  · apply h.nodup
  · intro i l k hl hk
    rcases getElem?_begun hl with hl | ⟨slug, -, rfl⟩
    · apply h.head_of_held i l k hl hk
    · cases hk

/-- A load may change its phase and its place in the queues, when the places of the other loads
stay as they are. -/
theorem update (h : Orderly s) {p q : Phase} (hi : s.loads[i]? = some ⟨slug, q⟩)
    (hloads : t.loads = (s.setPhase i p).loads) (htable : t.table = s.table)
    (hlength : t.queues.length = s.queues.length)
    (hlock : ∀ k, p.lock? = some k → k < s.queues.length)
    (hself : ∀ k, i ∈ t.queue k ↔ p.queue? = some k)
    (hothers : ∀ j ≠ i, ∀ k, j ∈ t.queue k ↔ j ∈ s.queue k)
    (hnodup : ∀ k, (t.queue k).Nodup)
    (hheld : ∀ k, p.held? = some k → (t.queue k).head? = some i)
    (hheads : ∀ j ≠ i, ∀ k, (s.queue k).head? = some j → (t.queue k).head? = some j) :
  Orderly t
  := by
  constructor
  · rw [htable, hlength]
    apply h.lt_of_table
  · intro j l k hl hk
    rw [hloads] at hl
    rw [hlength]
    rcases setPhase_cases hi hl with ⟨-, rfl⟩ | ⟨-, hl⟩
    · apply hlock k hk
    · apply h.lt_of_lock j l k hl hk
  · intro j k
    rw [hloads]
    by_cases hj : j = i
    · subst hj
      simp [hself, setPhase_self p hi]
    · rw [hothers j hj, setPhase_of_ne p hj]
      apply h.mem_queue_iff
  · apply hnodup
  · intro j l k hl hk
    rw [hloads] at hl
    rcases setPhase_cases hi hl with ⟨rfl, rfl⟩ | ⟨hj, hl⟩
    · apply hheld k hk
    · apply hheads j hj k (h.head_of_held j l k hl hk)

/-- The queues that name a load are those that its phase says. -/
theorem mem_queue (h : Orderly s) {q : Phase} (hi : s.loads[i]? = some ⟨slug, q⟩) :
  i ∈ s.queue k ↔ q.queue? = some k
  := by
  rw [h.mem_queue_iff, hi]
  simp

/-- A load may go on where it stands, with what it has got. -/
theorem goOn (h : Orderly s) {p q : Phase} (hi : s.loads[i]? = some ⟨slug, q⟩)
    (hqueue : p.queue? = q.queue?) (hlock : p.lock? = q.lock?) (hheld : p.held? = q.held?) :
  Orderly (s.setPhase i p)
  := by
  apply h.update hi rfl rfl rfl _ _ (fun _ _ _ => Iff.rfl) h.nodup _ (fun _ _ _ h => h)
  · intro k hk
    apply h.lt_of_lock i _ k hi (hlock ▸ hk)
  · intro k
    rw [hqueue]
    apply h.mem_queue hi
  · intro k hk
    apply h.head_of_held i _ k hi (hheld ▸ hk)

/-- A load may get a lock that has a queue. -/
theorem find (h : Orderly s) (hi : s.loads[i]? = some ⟨slug, .missed⟩)
    (hk : k < s.queues.length) :
  Orderly (s.setPhase i (.found k))
  := by
  apply h.update hi rfl rfl rfl _ _ (fun _ _ _ => Iff.rfl) h.nodup _ (fun _ _ _ h => h)
  · rintro k' ⟨⟩
    apply hk
  · intro k'
    apply h.mem_queue hi
  · rintro k' ⟨⟩

/-- The head of a queue may take the lock. -/
theorem take (h : Orderly s) {p : Phase} (hi : s.loads[i]? = some ⟨slug, .waiting k⟩)
    (hhead : s.holds i k = true) (hp : p.held? = some k) (hlock : p.lock? = some k) :
  Orderly (s.setPhase i p)
  := by
  apply h.update hi rfl rfl rfl _ _ (fun _ _ _ => Iff.rfl) h.nodup _ (fun _ _ _ h => h)
  · intro k' hk'
    rw [hlock] at hk'
    obtain rfl := Option.some.inj hk'
    apply h.lt_of_lock i _ k hi rfl
  · intro k'
    rw [Phase.queue?_of_held? hp]
    apply h.mem_queue hi
  · intro k' hk'
    rw [hp] at hk'
    obtain rfl := Option.some.inj hk'
    apply holds_iff.mp hhead

/-- There may be new locks, with nobody in their queues. -/
theorem make (h : Orderly s) (slug : String) :
  Orderly { s with
    table := (slug, s.queues.length) :: s.table
    queues := s.queues ++ [[]] }
  := by
  constructor
  · intro e he
    rw [List.length_append]
    rcases List.mem_cons.mp he with rfl | he
    · simp
    · have hlt := h.lt_of_table e he
      omega
  · intro i l k hl hk
    have hlt := h.lt_of_lock i l k hl hk
    rw [List.length_append]
    omega
  · intro i k
    rw [queue_of_new rfl]
    apply h.mem_queue_iff
  · intro k
    rw [queue_of_new rfl]
    apply h.nodup
  · intro i l k
    rw [queue_of_new rfl]
    apply h.head_of_held

/-- A load that has got a lock may queue up. -/
theorem enqueue (h : Orderly s) (hi : s.loads[i]? = some ⟨slug, .found k⟩) :
  Orderly ({ s with queues := s.queues.modify k (· ++ [i]) }.setPhase i (.waiting k))
  := by
  have hk : k < s.queues.length := h.lt_of_lock i _ k hi rfl
  have hout : ∀ k', i ∉ s.queue k' := by
    intro k' hmem
    cases (h.mem_queue hi).mp hmem
  have hqueue : ∀ k', _ = _ := fun k' => queue_modify (s := s) (j := k') (· ++ [i]) hk
  apply h.update (p := .waiting k) hi
  · rfl
  · rfl
  · simp
  · rintro k' ⟨⟩
    apply hk
  · intro k'
    apply (iff_of_eq (congrArg (i ∈ ·) (hqueue k'))).trans
    by_cases hk' : k' = k
    · simp [hk', Phase.queue?]
    · simp [hk', hout, Phase.queue?, Ne.symm hk']
  · intro j hj k'
    apply (iff_of_eq (congrArg (j ∈ ·) (hqueue k'))).trans
    split
    · simp [hj]
    · rfl
  · intro k'
    apply (congrArg List.Nodup (hqueue k')).mpr
    split
    · apply List.nodup_append.mpr
      use h.nodup k', List.nodup_singleton i
      intro a ha b hb hab
      rw [List.mem_singleton] at hb
      apply hout k'
      rw [← hb, ← hab]
      apply ha
    · apply h.nodup k'
  · rintro k' ⟨⟩
  · intro j hj k' hhead
    apply (congrArg List.head? (hqueue k')).trans
    split
    · rw [List.head?_append, hhead]
      rfl
    · apply hhead

/-- The head of a queue may leave it. -/
theorem leave (h : Orderly s) {outcome : Fetched}
    (hi : s.loads[i]? = some ⟨slug, .leaving k outcome⟩) :
  Orderly ({ s with queues := s.queues.modify k List.tail }.setPhase i (.done outcome))
  := by
  have hk : k < s.queues.length := h.lt_of_lock i _ k hi rfl
  have hqueue : ∀ k', _ = _ := fun k' => queue_modify (s := s) (j := k') List.tail hk
  obtain ⟨rest, hrest⟩ := List.head?_eq_some_iff.mp (h.head_of_held i _ k hi rfl)
  have hnodup := h.nodup k
  rw [hrest, List.nodup_cons] at hnodup
  apply h.update (p := .done outcome) hi
  · rfl
  · rfl
  · simp
  · rintro k' ⟨⟩
  · intro k'
    apply (iff_of_eq (congrArg (i ∈ ·) (hqueue k'))).trans
    by_cases hk' : k' = k
    · simp [hk', hrest, hnodup.1, Phase.queue?]
    · simp [hk', h.mem_queue hi, Phase.queue?, Ne.symm hk']
  · intro j hj k'
    apply (iff_of_eq (congrArg (j ∈ ·) (hqueue k'))).trans
    split
    · rename_i hk'
      simp [hk', hrest, hj]
    · rfl
  · intro k'
    apply (congrArg List.Nodup (hqueue k')).mpr
    split
    · apply (h.nodup k').sublist (List.tail_sublist _)
    · apply h.nodup k'
  · rintro k' ⟨⟩
  · intro j hj k' hhead
    apply (congrArg List.head? (hqueue k')).trans
    rw [if_neg _, hhead]
    rintro rfl
    rw [hrest] at hhead
    apply hj (Option.some.inj hhead).symm

/-- Every step keeps the queues in order. -/
theorem step (h : Orderly s) (hstep : Step s now m t) :
  Orderly t
  := by
  have hcache : ∀ cache, Orderly { s with cache := cache } :=
    fun _ => h.of_eq rfl rfl fun _ he => he
  have hcalls : ∀ calls, Orderly { s with calls := calls } :=
    fun _ => h.of_eq rfl rfl fun _ he => he
  have htable : ∀ p, Orderly { s with table := s.table.filter p } :=
    fun _ => h.of_eq rfl rfl fun _ he => List.mem_of_mem_filter he
  cases hstep with
  | begin slug => apply h.begin [slug]
  | hit hi => exact (hcache _).goOn hi rfl rfl rfl
  | miss hi => exact (hcache _).goOn hi rfl rfl rfl
  | take hi hlock =>
    obtain ⟨e, he, rfl⟩ := Option.map_eq_some_iff.mp hlock
    apply h.find hi (h.lt_of_table e (List.mem_of_find?_eq_some he))
  | make hi => apply (h.make _).find hi (by simp)
  | enqueue hi => apply h.enqueue hi
  | hitAgain hi hhead => exact (hcache _).take hi hhead rfl rfl
  | missAgain hi hhead => exact (hcache _).take hi hhead rfl rfl
  | call hi => exact (hcalls _).goOn hi rfl rfl rfl
  | answer outcome hi => exact h.goOn hi rfl rfl rfl
  | store hi =>
    rename_i outcome
    cases outcome with
    | error e => exact h.goOn hi rfl rfl rfl
    | ok hadiths => exact (hcache _).goOn hi rfl rfl rfl
  | release hi => exact (htable _).goOn hi rfl rfl rfl
  | leave hi => apply h.leave hi

/-- The queues are in order after every run. -/
theorem run (h : Orderly s) {steps : List (Instant × Move)} (hrun : s.run steps = some t) :
  Orderly t
  := run_induction (fun _ _ _ _ _ h hstep => h.step hstep) h hrun

end Orderly

end Loading

end HadithService
