import HadithService.Proofs.Editions.Store
import HadithService.Search.Engine

/-!
# What searches answer

When the source has one outcome for every edition, a search answers what it would answer if nobody
had searched before or at the same time (`Search.answers_eq_fresh`).
-/

namespace HadithService.Search

variable {source : EditionSource} {store : EditionStore} {q : Query}

/-! ### One search after the other -/

/-- From a sound store the answer is that of the source. -/
theorem search_fst (h : store.Sound source.edition) (q : Query) :
  (search source q store).1 = q.answerFrom source.edition
  := by
  have hfst := EditionStore.loadAll_fst h q.plan.slugs
  rw [search, Query.answerFrom, ← hfst]

theorem sound_search (h : store.Sound source.edition) (q : Query) :
  (search source q store).2.2.Sound source.edition
  := h.loadAll q.plan.slugs

theorem fresh_eq (source : EditionSource) (lifetime : Duration) (capacity : Nat) (q : Query) :
  fresh source lifetime capacity q = q.answerFrom source.edition
  := search_fst (EditionStore.Sound.empty source.edition lifetime capacity) q

/-- Searches that are made one after the other answer what the source has. -/
theorem answers_eq (h : store.Sound source.edition) (queries : List (Instant × Query)) :
  answers source store queries = queries.map fun a => a.2.answerFrom source.edition
  := by
  induction queries generalizing store with
  | nil => rfl
  | cons a queries ih =>
    obtain ⟨now, q⟩ := a
    have hwait := h.wait now
    rw [List.map_cons, ← ih (sound_search hwait q), ← search_fst hwait]
    rfl

/-! ### Searches at the same time -/

namespace Inquiries

open Loading (Step IsTrue)

variable {s t : Inquiries} {now : Instant} {m : InquiryMove} {inquiry : Inquiry}

/-- What a move can be: a search is begun, the cache is swept, or a load takes one of its own steps,
with what the source has for an answer. -/
theorem move_cases (hmove : s.move source now m = some t) :
  (∃ q, m = .ask q ∧ t = s.begun q) ∨
    (m = .sweep ∧ t = s.swept now) ∨
    ∃ i m' u, m.isStep = true ∧ m'.load? = some i ∧ Step s.loading now m' u ∧
      IsTrue source.edition s.loading m' ∧ t = { s with loading := u }
  := by
  cases m with
  | ask q =>
    left
    use q, rfl
    apply (Option.some.inj hmove).symm
  | sweep =>
    right
    left
    use rfl
    apply (Option.some.inj hmove).symm
  | advance i =>
    right
    right
    obtain ⟨u, hu, rfl⟩ := Option.map_eq_some_iff.mp hmove
    use i, .advance i, u, rfl, rfl, Loading.move_eq_some_iff.mp hu
    constructor
    · rintro _ _ ⟨⟩
    · rfl
  | reply i =>
    right
    right
    obtain ⟨l, hl, hmove⟩ := Option.bind_eq_some_iff.mp hmove
    obtain ⟨u, hu, hmove⟩ := Option.bind_eq_some_iff.mp hmove
    obtain rfl := Option.some.inj hmove
    use i, .answer i (source.edition l.slug), u, rfl, rfl, Loading.move_eq_some_iff.mp hu
    constructor
    · rintro _ _ ⟨⟩ l' hl'
      rw [hl] at hl'
      rw [Option.some.inj hl']
    · rfl

/-- The steps of the loads can be made. -/
theorem exists_move {i : Nat} {m' : Move} {u : Loading} (hload : m'.load? = some i)
    (hstep : Step s.loading now m' u) (htrue : IsTrue source.edition s.loading m') :
  ∃ m, m.isStep = true ∧ s.move source now m = some { s with loading := u }
  := by
  have hmove := Loading.move_eq_some_iff.mpr hstep
  cases m' with
  | begin => cases hload
  | advance j =>
    use .advance j, rfl
    rw [move, hmove]
    rfl
  | answer j outcome =>
    cases hstep with
    | @answer _ slug k _ hi =>
      use .reply j, rfl
      obtain rfl := htrue j outcome rfl _ hi
      simp only [move, hi, Option.bind_eq_bind, Option.bind_some, hmove]
      rfl

/-! ### Loads of searches -/

/-- Every search finds its loads where they were begun. -/
def Placed (s : Inquiries) : Prop :=
  ∀ a ∈ s.asked, ∃ before after,
    s.loading.loads.map Load.slug = before ++ a.query.plan.slugs ++ after ∧ before.length = a.start

namespace Placed

theorem idle (cache : EditionCache) :
  (idle cache).Placed
  := by simp [Placed, Inquiries.idle]

theorem begun (h : s.Placed) (q : Query) :
  (s.begun q).Placed
  := by
  intro a ha
  rw [Inquiries.begun, List.map_append, Loading.slugs_begun]
  rcases List.mem_append.mp ha with ha | ha
  · obtain ⟨before, after, heq, hlength⟩ := h a ha
    use before, after ++ q.plan.slugs
    use by rw [heq, List.append_assoc _ after], hlength
  · obtain rfl := List.mem_singleton.mp ha
    use s.loading.loads.map Load.slug, []
    use by rw [List.append_nil], List.length_map _

theorem of_slugs_eq (h : s.Placed) {u : Loading}
    (hslugs : u.loads.map Load.slug = s.loading.loads.map Load.slug) :
  Placed { s with loading := u }
  := by
  intro a ha
  rw [hslugs]
  apply h a ha

/-- The loads of a search are those of the editions that its query asks for. -/
theorem slugs_loadsOf (h : s.Placed) (ha : inquiry ∈ s.asked) :
  (s.loadsOf inquiry).map Load.slug = inquiry.query.plan.slugs
  := by
  obtain ⟨before, after, heq, hlength⟩ := h inquiry ha
  rw [loadsOf, List.map_take, List.map_drop, heq, ← hlength, List.append_assoc, List.drop_left,
    List.take_left]

theorem forall₂_outcomes {Q : String → Fetched → Prop} {loads : List Load}
    (hall : loads.all (fun l => (Loading.outcome? l).isSome) = true)
    (h : ∀ l ∈ loads, ∀ outcome, Loading.outcome? l = some outcome → Q l.slug outcome) :
  List.Forall₂ Q (loads.map Load.slug) (loads.filterMap Loading.outcome?)
  := by
  induction loads with
  | nil => apply List.Forall₂.nil
  | cons l loads ih =>
    rw [List.all_cons, Bool.and_eq_true] at hall
    obtain ⟨outcome, houtcome⟩ := Option.isSome_iff_exists.mp hall.1
    rw [List.map_cons, List.filterMap_cons_some houtcome]
    apply List.Forall₂.cons
    · apply h l List.mem_cons_self outcome houtcome
    · apply ih hall.2 fun l hl => h l (List.mem_cons_of_mem _ hl)

/-- A search answers from editions as the source vouches for them. -/
theorem exists_editions {Q : String → Fetched → Prop} (h : s.Placed) (hvouched : s.loading.Vouched Q)
    (ha : inquiry ∈ s.asked) {answer : Except Unavailable (Option Results)}
    (hanswer : s.answer? inquiry = some answer) :
  ∃ editions, List.Forall₂ Q inquiry.query.plan.slugs editions ∧
    answer = inquiry.query.answer editions
  := by
  rw [answer?] at hanswer
  split at hanswer
  · rename_i hall
    use (s.loadsOf inquiry).filterMap Loading.outcome?
    constructor
    · rw [← h.slugs_loadsOf ha]
      apply forall₂_outcomes hall
      intro l hl outcome houtcome
      have hmem : l ∈ s.loading.loads := List.mem_of_mem_drop (List.mem_of_mem_take hl)
      apply hvouched.outcome hmem houtcome
    · apply (Option.some.inj hanswer).symm
  · cases hanswer

end Placed

/-! ### Sound states -/

/-- The loads are in order, nothing is there but what the source has, and every search finds its
loads where they were begun. -/
structure Sound (edition : String → Fetched) (s : Inquiries) : Prop where
  orderly : s.loading.Orderly
  faithful : s.loading.Faithful edition
  placed : ∀ a ∈ s.asked, ∃ before after,
    s.loading.loads.map Load.slug = before ++ a.query.plan.slugs ++ after ∧ before.length = a.start

namespace Sound

variable {edition : String → Fetched}

theorem idle {cache : EditionCache} (h : cache.Faithful edition) :
  (idle cache).Sound edition
  where
    orderly := Loading.Orderly.idle cache
    faithful := Loading.Faithful.idle h
    placed := Placed.idle cache

/-- Every move keeps a sound state sound. -/
theorem move (h : s.Sound source.edition) (hmove : s.move source now m = some t) :
  t.Sound source.edition
  := by
  rcases move_cases hmove with
    ⟨q, rfl, rfl⟩ | ⟨rfl, rfl⟩ | ⟨i, m', u, -, hload, hstep, htrue, rfl⟩
  · constructor
    · apply h.orderly.begin q.plan.slugs
    · apply h.faithful.begin q.plan.slugs
    · apply Placed.begun h.placed q
  · constructor
    · exact h.orderly.of_eq rfl rfl fun _ he => he
    · exact { h.faithful with cache := h.faithful.cache.prune now }
    · apply h.placed
  · constructor
    · apply h.orderly.step hstep
    · apply h.faithful.step hstep htrue
    · apply Placed.of_slugs_eq h.placed (hstep.slugs_eq hload)

/-- A sound state is sound after every run. -/
theorem run (h : s.Sound source.edition) {moves : List (Instant × InquiryMove)}
    (hrun : s.run source moves = some t) :
  t.Sound source.edition
  := by
  induction moves generalizing s with
  | nil =>
    obtain rfl := Option.some.inj hrun
    apply h
  | cons a moves ih =>
    obtain ⟨now, m⟩ := a
    obtain ⟨u, hu, hrun⟩ := Option.bind_eq_some_iff.mp hrun
    apply ih (h.move hu) hrun

/-- A search answers what the source has. -/
theorem answer_eq (h : s.Sound edition) (ha : inquiry ∈ s.asked)
    {answer : Except Unavailable (Option Results)} (hanswer : s.answer? inquiry = some answer) :
  answer = inquiry.query.answerFrom edition
  := by
  have hvouched := Loading.faithful_iff.mp h.faithful
  obtain ⟨editions, heditions, rfl⟩ := Placed.exists_editions h.placed hvouched ha hanswer
  rw [Query.answerFrom, EditionStore.eq_map_of_isOf heditions]

/-- When no load can go on, every search has its answer. -/
theorem answer?_of_stuck (h : s.Sound source.edition) (inquiry : Inquiry)
    (hstuck : ∀ m, m.isStep = true → s.move source now m = none) :
  (s.answer? inquiry).isSome = true
  := by
  have hsettled : s.loading.isSettled = true := by
    by_contra hs
    obtain ⟨i, m', u, hload, hstep, htrue⟩ :=
      h.orderly.exists_step source.edition now (Bool.eq_false_iff.mpr hs)
    obtain ⟨m, hm, hmove⟩ := exists_move hload hstep htrue
    rw [hstuck m hm] at hmove
    cases hmove
  have hall : (s.loadsOf inquiry).all (fun l => (Loading.outcome? l).isSome) = true := by
    apply List.all_eq_true.mpr
    intro l hl
    apply List.all_eq_true.mp hsettled l (List.mem_of_mem_drop (List.mem_of_mem_take hl))
  rw [answer?, if_pos hall]
  rfl

end Sound

/-! ### Runs -/

/-- Every load takes at most nine steps in a run. -/
theorem steps_le {moves : List (Instant × InquiryMove)} (hrun : s.run source moves = some t) :
  t.loading.rank + (moves.countP fun a => a.2.isStep) + 9 * s.loading.loads.length
    ≤ s.loading.rank + 9 * t.loading.loads.length
  := by
  induction moves generalizing s with
  | nil =>
    obtain rfl := Option.some.inj hrun
    simp
  | cons a moves ih =>
    obtain ⟨now, m⟩ := a
    obtain ⟨u, hu, hrun⟩ := Option.bind_eq_some_iff.mp hrun
    have hrest := ih hrun
    rw [List.countP_cons]
    rcases move_cases hu with
      ⟨q, rfl, rfl⟩ | ⟨rfl, rfl⟩ | ⟨i, m', v, hm, hload, hstep, -, rfl⟩
    · rw [begun, Loading.rank_begin, List.length_append, List.length_map] at hrest
      have hask : ¬ (now, InquiryMove.ask q).2.isStep = true := by rintro ⟨⟩
      rw [if_neg hask]
      omega
    · apply hrest
    · have hrank := hstep.rank_lt hload
      have hlength := hstep.length_loads hload
      rw [if_pos hm]
      simp only at hrest
      omega

/-- The searches of a run are those that were begun in it. -/
theorem queries_eq {moves : List (Instant × InquiryMove)} (hrun : s.run source moves = some t) :
  t.asked.map Inquiry.query = s.asked.map Inquiry.query ++ moves.filterMap fun a => a.2.query?
  := by
  induction moves generalizing s with
  | nil =>
    obtain rfl := Option.some.inj hrun
    simp
  | cons a moves ih =>
    obtain ⟨now, m⟩ := a
    obtain ⟨u, hu, hrun⟩ := Option.bind_eq_some_iff.mp hrun
    rw [ih hrun, List.filterMap_cons]
    rcases move_cases hu with ⟨q, rfl, rfl⟩ | ⟨rfl, rfl⟩ | ⟨i, m', v, hm, -, -, -, rfl⟩
    · simp [begun, InquiryMove.query?]
    · rfl
    · cases m with
      | advance j => rfl
      | reply j => rfl
      | _ => cases hm

end Inquiries

/-- When the source has one outcome for every edition, a search answers what it would answer on an
empty store of its own, whether searches are made one after the other or at the same time; and of
searches that are made at the same time each gets its answer, since the loads run out of steps and
can go on as long as one is missing. -/
theorem answers_eq_fresh (source : EditionSource) (lifetime : Duration) (capacity : Nat) :
  (∀ queries, answers source (.empty lifetime capacity) queries
      = queries.map fun a => fresh source lifetime capacity a.2) ∧
    ∀ moves s, (Inquiries.idle (.empty lifetime capacity)).run source moves = some s →
      s.asked.map Inquiry.query = (moves.filterMap fun a => a.2.query?) ∧
      (∀ a ∈ s.asked, ∀ answer, s.answer? a = some answer →
        answer = fresh source lifetime capacity a.query) ∧
      (moves.countP fun a => a.2.isStep) ≤ 9 * s.loading.loads.length ∧
      ∀ now, (∀ m, m.isStep = true → s.move source now m = none) →
        ∀ a ∈ s.asked, (s.answer? a).isSome = true
  := by
  simp only [fresh_eq]
  constructor
  · apply answers_eq (EditionStore.Sound.empty source.edition lifetime capacity)
  · intro moves s hrun
    have hempty : (EditionCache.empty lifetime capacity).Faithful source.edition :=
      EditionCache.Faithful.empty lifetime capacity
    have hsound := (Inquiries.Sound.idle hempty).run hrun
    constructor
    · apply Inquiries.queries_eq hrun
    constructor
    · intro a ha answer hanswer
      apply hsound.answer_eq ha hanswer
    constructor
    · have hsteps := Inquiries.steps_le hrun
      simp only [Inquiries.idle, Loading.idle, Loading.rank, Loading.stepsOf, List.length_nil]
        at hsteps
      omega
    · intro now hstuck a _
      apply hsound.answer?_of_stuck a hstuck

/-- A source that has one edition. -/
def oneEdition : EditionSource := fun slug =>
  if slug = "ara-bukhari" then ⟨2, .ok []⟩ else ⟨0, .error .request⟩

/-- Two searches for the edition, the second of which gets it from the source while the first
waits, and one for an edition that is not there. -/
def threeSearches : List (Instant × InquiryMove) :=
  [(0, .ask ⟨none, some "bukhari", none⟩), (1, .ask ⟨none, some "bukhari", none⟩),
   (2, .ask ⟨none, some "muslim", none⟩), (3, .advance 0), (3, .advance 1), (3, .advance 1),
   (3, .advance 1), (3, .advance 0), (3, .advance 0), (4, .advance 1), (4, .advance 1),
   (5, .reply 1), (6, .advance 1), (6, .advance 1), (6, .advance 1), (6, .sweep), (7, .advance 0),
   (7, .advance 0), (8, .advance 2), (8, .advance 2), (8, .advance 2), (8, .advance 2),
   (8, .advance 2), (9, .reply 2), (9, .advance 2), (9, .advance 2), (9, .advance 2)]

/-- The state after the three searches. -/
def threeAnswers : Inquiries :=
  ((Inquiries.idle (.empty 60 1)).run oneEdition threeSearches).getD (Inquiries.idle (.empty 60 1))

theorem answers_eq_fresh_three :
  threeAnswers.asked.length = 3 ∧ ∀ a ∈ threeAnswers.asked,
    threeAnswers.answer? a = some (fresh oneEdition 60 1 a.query)
  := by
  have hsome : ((Inquiries.idle (.empty 60 1)).run oneEdition threeSearches).isSome = true := by
    decide +kernel
  have hrun : (Inquiries.idle (.empty 60 1)).run oneEdition threeSearches = some threeAnswers := by
    obtain ⟨s, hs⟩ := Option.isSome_iff_exists.mp hsome
    rw [threeAnswers, hs]
    rfl
  have hanswered : ∀ a ∈ threeAnswers.asked, (threeAnswers.answer? a).isSome = true := by
    decide +kernel
  constructor
  · decide +kernel
  · intro a ha
    obtain ⟨answer, hanswer⟩ := Option.isSome_iff_exists.mp (hanswered a ha)
    obtain ⟨-, heq, -⟩ := (answers_eq_fresh oneEdition 60 1).2 threeSearches threeAnswers hrun
    rw [hanswer, heq a ha answer hanswer]

end HadithService.Search
