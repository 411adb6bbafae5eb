import HadithService.Proofs.Editions.Stages

/-!
# How often the source is called

When the source does not fail for an edition, and the cache keeps what it is given, the source is
called once for the edition however many loads there are and in whatever order they take their
steps.
-/

namespace HadithService.Loading

variable {s t : Loading} {now : Instant} {m : Move} {i j k : Nat} {slug : String}

/-- An edition is in one of the stages. -/
def Staged (G : List Hadith → Prop) (slug : String) (s : Loading) : Prop :=
  Unasked slug s ∨ (∃ i k, Asked G slug i k s) ∨ ∃ hadiths, G hadiths ∧ Kept hadiths slug s

/-- Every step keeps an edition in one of the stages. -/
theorem Staged.step {G : List Hadith → Prop} {T : Instant → Prop} (h : Staged G slug s)
    (horderly : Orderly s) (hsteady : Steady T s) (hT : ∀ since, T since → now - since ≤ s.cache.lifetime)
    (hcapacity : (s.loads.map Load.slug).toFinset.card ≤ s.cache.capacity)
    (hanswer : s.subject? m = some slug →
      ∀ j outcome, m = .answer j outcome → ∃ hadiths, G hadiths ∧ outcome = .ok hadiths)
    (hstep : Step s now m t) :
  Staged G slug t
  := by
  by_cases hsubject : s.subject? m = some slug
  · rcases h with h | ⟨i, k, h⟩ | ⟨hadiths, hG, h⟩
    · rcases h.step (G := G) horderly hsubject hstep with h | h
      · left
        apply h
      · right
        left
        apply h
    · right
      apply (h.step horderly hsubject (hanswer hsubject) hstep).imp_left
      intro h
      use i, k
    · right
      right
      use hadiths, hG
      apply h.step hsteady.distinct _ hsubject hstep
      intro e he
      apply hT _ (hsteady.instants e he)
  · have hst := Unaffected.of_step hstep hsubject fun _ hslug => hsteady.room hcapacity hslug
    rcases h with h | ⟨i, k, h⟩ | ⟨hadiths, hG, h⟩
    · left
      apply h.congr hst
    · right
      left
      use i, k
      apply h.congr hst
    · right
      right
      use hadiths, hG
      apply h.congr hst

/-- After every run an edition is in one of the stages, if the source has not failed for it and
the cache has neither outlived nor driven out anything. -/
theorem Staged.run {G : List Hadith → Prop} {T : Instant → Prop} {steps : List (Instant × Move)}
    (h : Staged G slug s) (horderly : Orderly s) (hsteady : Steady T s)
    (hsteps : ∀ a ∈ steps, T a.1)
    (hT : ∀ since now, T since → T now → now - since ≤ s.cache.lifetime)
    (hrun : s.run steps = some t)
    (hcapacity : (t.loads.map Load.slug).toFinset.card ≤ s.cache.capacity)
    (hanswer : ∀ now i outcome, (now, Move.answer i outcome) ∈ steps →
      (t.loads[i]?).map Load.slug = some slug → ∃ hadiths, G hadiths ∧ outcome = .ok hadiths) :
  Staged G slug t
  := by
  induction steps generalizing s with
  | nil =>
    obtain rfl := Option.some.inj hrun
    apply h
  | cons a steps ih =>
    obtain ⟨now, m⟩ := a
    obtain ⟨u, hstep, hrun'⟩ := run_cons_eq_some_iff.mp hrun
    have hnow := hsteps _ List.mem_cons_self
    -- the loads of the whole run bound those of every state on the way
    have hcard : (s.loads.map Load.slug).toFinset.card ≤ s.cache.capacity := by
      apply le_trans (Finset.card_le_card _) hcapacity
      intro slug' hslug
      rw [List.mem_toFinset] at hslug ⊢
      apply (slugs_isPrefix hrun).subset hslug
    apply ih _ (horderly.step hstep) (hsteady.step hnow hstep) _ _ hrun'
    · rw [hstep.sameLimits.capacity_eq]
      apply hcapacity
    · intro now i outcome hmem
      apply hanswer now i outcome (List.mem_cons_of_mem _ hmem)
    · apply h.step horderly hsteady (fun since hsince => hT since now hsince hnow) hcard _ hstep
      rintro hsubject j outcome rfl
      apply hanswer now j outcome List.mem_cons_self
      obtain ⟨l, hl, hslug⟩ := Option.map_eq_some_iff.mp hsubject
      rw [slug_of_run hrun hl, hslug]
    · intro a hmem
      apply hsteps a (List.mem_cons_of_mem _ hmem)
    · rw [hstep.sameLimits.lifetime_eq]
      apply hT

/-- When all loads of a run are done, the source has been called once for every edition for which
it has not failed, and each load of the edition has got what it answered, as long as the lifetime
outlasts the run and the cache may hold as many editions as were loaded. -/
theorem count_calls_eq_one {lifetime : Duration} {capacity : Nat} {steps : List (Instant × Move)}
    (hrun : (idle (.empty lifetime capacity)).run steps = some s)
    (hsettled : s.isSettled = true)
    (hloaded : slug ∈ s.loads.map Load.slug)
    (hsuccess : ∀ now i outcome, (now, Move.answer i outcome) ∈ steps →
      (s.loads[i]?).map Load.slug = some slug → ∃ hadiths, outcome = .ok hadiths)
    (hlifetime : ∀ a ∈ steps, ∀ b ∈ steps, b.1 - a.1 ≤ lifetime)
    (hcapacity : (s.loads.map Load.slug).toFinset.card ≤ capacity) :
  s.calls.count slug = 1 ∧
    ∃ now i hadiths, (now, Move.answer i (.ok hadiths)) ∈ steps ∧
      (s.loads[i]?).map Load.slug = some slug ∧
      ∀ l ∈ s.loads, l.slug = slug → outcome? l = some (.ok hadiths)
  := by
  have hstaged : Staged (fun hadiths => ∃ now i, (now, Move.answer i (.ok hadiths)) ∈ steps ∧
      (s.loads[i]?).map Load.slug = some slug) slug s := by
    apply Staged.run (T := fun now => ∃ a ∈ steps, a.1 = now) _ (Orderly.idle _)
      (Steady.idle lifetime capacity) _ _ hrun hcapacity
    · intro now i outcome hmem hslug
      obtain ⟨hadiths, rfl⟩ := hsuccess now i outcome hmem hslug
      use hadiths
      constructor
      · use now, i
      · rfl
    · left
      constructor
      · simp [idle, EditionCache.empty]
      · rfl
      · simp [idle]
    · intro a ha
      use a
    · rintro _ _ ⟨a, ha, rfl⟩ ⟨b, hb, rfl⟩
      apply hlifetime a ha b hb
  obtain ⟨l, hl, rfl⟩ := List.mem_map.mp hloaded
  obtain ⟨i, hi⟩ := List.mem_iff_getElem?.mp hl
  obtain ⟨outcome, houtcome⟩ := done_of_isSettled hsettled hi
  rcases hstaged with h | ⟨j, k, h⟩ | ⟨hadiths, ⟨now, j, hmem, hslug⟩, h⟩
  · rcases h.loads i _ hi with hp | ⟨k, hp, -⟩
    · rw [houtcome] at hp
      cases hp
    · cases houtcome.symm.trans hp
  · obtain ⟨p, hj, hp⟩ := h.asker_holds
    obtain ⟨outcome, rfl⟩ := done_of_isSettled hsettled hj
    cases hp
  · use h.calls, now, j, hadiths, hmem, hslug
    intro l' hl' hslug'
    obtain ⟨i', hi'⟩ := List.mem_iff_getElem?.mp hl'
    obtain ⟨slug', p'⟩ := l'
    obtain rfl := hslug'
    obtain ⟨outcome', rfl⟩ := done_of_isSettled hsettled hi'
    have hserved : outcome' = .ok hadiths := h.loads i' _ hi'
    rw [hserved]
    rfl

/-- A run in which two loads of an edition share a call, the second of them making it, while a
load of another edition fails. -/
def sharedSteps : List (Instant × Move) :=
  [(0, .begin "a"), (1, .begin "b"), (2, .begin "a"), (3, .advance 0), (4, .advance 2),
   (5, .advance 1), (6, .advance 0), (7, .advance 2), (8, .advance 2), (9, .advance 0),
   (10, .advance 2), (11, .advance 1), (12, .advance 2), (13, .advance 1),
   (14, .answer 2 (.ok [])), (15, .advance 2), (16, .advance 2), (17, .advance 2),
   (18, .advance 0), (19, .advance 0), (20, .advance 1), (21, .advance 1),
   (22, .answer 1 (.error .request)), (23, .advance 1), (24, .advance 1), (25, .advance 1)]

/-- The state after the shared call. -/
def sharedEnd : Loading :=
  ((idle (.empty 60 2)).run sharedSteps).getD (idle (.empty 60 2))

theorem count_calls_shared :
  (idle (.empty 60 2)).run sharedSteps = some sharedEnd ∧ sharedEnd.calls.count "a" = 1 ∧
    ∃ now i hadiths, (now, Move.answer i (.ok hadiths)) ∈ sharedSteps ∧
      (sharedEnd.loads[i]?).map Load.slug = some "a" ∧
      ∀ l ∈ sharedEnd.loads, l.slug = "a" → outcome? l = some (.ok hadiths)
  := by
  have hrun : (idle (.empty 60 2)).run sharedSteps = some sharedEnd := rfl
  use hrun
  apply count_calls_eq_one hrun
  · decide
  · decide
  · intro now i outcome hmem hslug
    simp only [sharedSteps, List.mem_cons, Prod.mk.injEq, reduceCtorEq, and_false, false_or,
      Move.answer.injEq, List.not_mem_nil, or_false] at hmem
    rcases hmem with ⟨-, rfl, rfl⟩ | ⟨-, rfl, rfl⟩
    · use []
    · have hb : (sharedEnd.loads[1]?).map Load.slug = some "b" := by decide
      have hne : some "b" ≠ some "a" := by decide
      apply absurd (hb.symm.trans hslug) hne
  · decide
  · decide

end HadithService.Loading
