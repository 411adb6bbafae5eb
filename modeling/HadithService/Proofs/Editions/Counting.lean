import HadithService.Editions.Counting
import HadithService.Proofs.Editions.Progress
import HadithService.Proofs.Limits.Counters

/-!
# Hits and misses

The cache counts how often somebody has looked into it.  A load that calls the source has looked
twice by then, so in every run the misses are twice the calls, and one more for every load that
finds its edition at its second look (`Loading.misses_of_settled`).  When loads come one after the
other none does (`Loading.foundAgain_eq_zero`).
-/

namespace HadithService

namespace EditionCache

variable {c : EditionCache} {slug : String} {hadiths : List Hadith} {now later : Instant}

theorem get_of_some (h : c.peek slug now = some hadiths) :
  (c.get slug now).2 = { c with hits := c.hits + 1 }
  := by
  rw [get, h]

theorem get_of_none (h : c.peek slug now = none) :
  (c.get slug now).2 = { c with misses := c.misses + 1 }
  := by
  rw [get, h]

/-- How often an edition was found in a cache and not found, as far as words of 64 bits tell. -/
def HasCounted (found missed : Nat) (c : EditionCache) : Prop :=
  c.hits = UInt64.ofNat found ∧ c.misses = UInt64.ofNat missed

namespace HasCounted

variable {found missed : Nat}

theorem hit (h : c.HasCounted found missed) (hfound : c.peek slug now = some hadiths) :
  (c.get slug now).2.HasCounted (found + 1) missed
  := by
  rw [get_of_some hfound]
  constructor
  · rw [UInt64.ofNat_add, ← h.1]
    rfl
  · apply h.2

theorem miss (h : c.HasCounted found missed) (hmissed : c.peek slug now = none) :
  (c.get slug now).2.HasCounted found (missed + 1)
  := by
  rw [get_of_none hmissed]
  constructor
  · apply h.1
  · rw [UInt64.ofNat_add, ← h.2]
    rfl

end HasCounted

/-- An edition that has not been found is not found later, if nothing happens to the cache. -/
theorem peek_later (h : c.peek slug now = none) (hle : now ≤ later) :
  c.peek slug later = none
  := by
  rw [peek, Option.map_eq_none_iff, Option.filter_eq_none_iff] at h ⊢
  intro e he
  have hexpired := h e he
  rw [isFresh, Bool.not_eq_true, Bool.not_eq_false'] at hexpired ⊢
  apply hasExpired_mono hle hexpired

end EditionCache

namespace Phase

/-- Whether a load has neither found its edition nor called the source. -/
def undecided : Phase → Nat
  | .begun => 1
  | .missed => 1
  | .found _ => 1
  | .waiting _ => 1
  | .missedAgain _ => 1
  | _ => 0

/-- How often a load that has not called the source yet has looked in vain, unless it has found its
edition since. -/
def misses : Phase → Nat
  | .missed => 1
  | .found _ => 1
  | .waiting _ => 1
  | .missedAgain _ => 2
  | _ => 0

/-- Whether a load waits for the answer of the source. -/
def awaits : Phase → Nat
  | .fetching _ => 1
  | _ => 0

end Phase

namespace Loading

variable {s t : Loading} {now : Instant} {m : Move} {i j k : Nat} {slug : String}
  {steps : List (Instant × Move)} {given again found missed : Nat}

theorem tally_of_settled {w : Phase → Nat} (h : s.isSettled = true)
    (hw : ∀ outcome, w (.done outcome) = 0) :
  s.tally w = 0
  := by
  apply List.sum_eq_zero
  intro n hn
  obtain ⟨l, hl, rfl⟩ := List.mem_map.mp hn
  obtain ⟨i, hi⟩ := List.mem_iff_getElem?.mp hl
  obtain ⟨outcome, hdone⟩ := done_of_isSettled h hi
  rw [hdone, hw]

/-! ### What the counts of the cache say -/

/-- How often loads have found their editions in the cache and not found them, given how many answers
have come and how many loads have found their editions at the second look. -/
structure Tallied (given again found missed : Nat) (s : Loading) : Prop where
  words : s.cache.HasCounted found missed
  misses : missed = s.tally Phase.misses + 2 * s.calls.length + again
  hits : s.loads.length = s.tally Phase.undecided + s.calls.length + found
  calls : s.calls.length = s.tally Phase.awaits + given

theorem Tallied.idle (lifetime : Duration) (capacity : Nat) :
  Tallied 0 0 0 0 (idle (.empty lifetime capacity))
  := ⟨⟨rfl, rfl⟩, rfl, rfl, rfl⟩

/-- A load that begins is undecided, and has neither looked in vain nor called the source. -/
theorem Tallied.begin (h : Tallied given again found missed s) (slug : String) :
  Tallied given again found missed { s with loads := s.loads ++ [⟨slug, .begun⟩] }
  := by
  have htally : ∀ w, tally w { s with loads := s.loads ++ [⟨slug, .begun⟩] }
      = s.tally w + w .begun * 1 := fun w => tally_begin w s [slug]
  use h.words
  · rw [htally]
    apply h.misses
  · have hold := h.hits
    rw [htally, List.length_append]
    simp only [List.length_singleton, Phase.undecided]
    omega
  · rw [htally]
    apply h.calls

/-- A load goes on to another phase, which changes the counts by what the phases weigh. -/
theorem Tallied.goOn (h : Tallied given again found missed s) (p : Phase) {q : Phase}
    {given' again' found' missed' : Nat} (hi : s.loads[i]? = some ⟨slug, q⟩)
    (hloads : t.loads = (s.setPhase i p).loads) (hwords : t.cache.HasCounted found' missed')
    (hmisses : missed' + q.misses + 2 * s.calls.length + again
      = missed + p.misses + 2 * t.calls.length + again')
    (hhits : found' + p.undecided + t.calls.length = found + q.undecided + s.calls.length)
    (hcalls : t.calls.length + q.awaits + given = s.calls.length + p.awaits + given') :
  Tallied given' again' found' missed' t
  := by
  have htally : ∀ w, t.tally w + w q = s.tally w + w p := by
    intro w
    rw [← tally_setPhase w hi, tally, hloads]
    rfl
  have hlength : t.loads.length = s.loads.length := by
    rw [hloads, setPhase, List.length_modify]
  use hwords
  · have hsum := htally Phase.misses
    have hold := h.misses
    omega
  · have hsum := htally Phase.undecided
    have hold := h.hits
    omega
  · have hsum := htally Phase.awaits
    have hold := h.calls
    omega

/-- A step that neither looks into the cache nor calls the source, and is no answer, changes no
count. -/
theorem Tallied.quiet (h : Tallied given again found missed s) (p : Phase) {q : Phase}
    (hi : s.loads[i]? = some ⟨slug, q⟩) (hloads : t.loads = (s.setPhase i p).loads)
    (hcache : t.cache.hits = s.cache.hits ∧ t.cache.misses = s.cache.misses)
    (hcalls : t.calls = s.calls)
    (hp : p.misses = q.misses ∧ p.undecided = q.undecided ∧ p.awaits = q.awaits) :
  Tallied given again found missed t
  := by
  obtain ⟨hpm, hpu, hpa⟩ := hp
  apply h.goOn p hi hloads
  · use hcache.1.trans h.words.1, hcache.2.trans h.words.2
  · rw [hcalls, hpm]
  · rw [hcalls, hpu]
  · rw [hcalls, hpa]

/-- Storing an outcome neither looks into the cache nor calls the source. -/
theorem store_counts (s : Loading) (slug : String) (now : Instant) (outcome : Fetched) :
  ((s.store slug now outcome).cache.hits = s.cache.hits ∧
    (s.store slug now outcome).cache.misses = s.cache.misses) ∧
  (s.store slug now outcome).calls = s.calls
  := by
  cases outcome with
  | error e => exact ⟨⟨rfl, rfl⟩, rfl⟩
  | ok hadiths =>
    rw [store, EditionCache.insert_eq]
    exact ⟨⟨rfl, rfl⟩, rfl⟩

theorem findsAgain_eq {p : Phase} (now : Instant) (hi : s.loads[i]? = some ⟨slug, p⟩) :
  s.findsAgain now (.advance i) = (p.isWaiting && (s.cache.peek slug now).isSome)
  := by
  rw [findsAgain, hi]
  rfl

/-- Every step counts what happens in it. -/
theorem Tallied.step (h : Tallied given again found missed s) (hstep : Step s now m t) :
  ∃ found' missed', Tallied (given + (answered [(now, m)]).length)
    (again + (s.findsAgain now m).toNat) found' missed' t
  := by
  cases hstep with
  | begin slug => exact ⟨_, _, h.begin slug⟩
  | hit hi hpeek =>
    rw [findsAgain_eq now hi]
    exact ⟨_, _, h.goOn (.done _) hi rfl (h.words.hit hpeek) rfl rfl rfl⟩
  | miss hi hpeek =>
    rw [findsAgain_eq now hi]
    refine ⟨_, _, h.goOn .missed hi rfl (h.words.miss hpeek) ?_ rfl rfl⟩
    simp [Phase.misses, Phase.isWaiting]
  | take hi hlock =>
    rw [findsAgain_eq now hi]
    exact ⟨_, _, h.quiet (.found _) hi rfl ⟨rfl, rfl⟩ rfl ⟨rfl, rfl, rfl⟩⟩
  | make hi hlock =>
    rw [findsAgain_eq now hi]
    exact ⟨_, _, h.quiet (.found _) hi rfl ⟨rfl, rfl⟩ rfl ⟨rfl, rfl, rfl⟩⟩
  | enqueue hi =>
    rw [findsAgain_eq now hi]
    exact ⟨_, _, h.quiet (.waiting _) hi rfl ⟨rfl, rfl⟩ rfl ⟨rfl, rfl, rfl⟩⟩
  | hitAgain hi hhead hpeek =>
    rw [findsAgain_eq now hi, hpeek]
    refine ⟨_, _, h.goOn (.leaving _ _) hi rfl (h.words.hit hpeek) ?_ rfl rfl⟩
    simp [Phase.misses, Phase.isWaiting]
    omega
  | missAgain hi hhead hpeek =>
    rw [findsAgain_eq now hi, hpeek]
    refine ⟨_, _, h.goOn (.missedAgain _) hi rfl (h.words.miss hpeek) ?_ rfl rfl⟩
    simp [Phase.misses, Phase.isWaiting]
  | call hi =>
    rw [findsAgain_eq now hi]
    refine ⟨_, _, h.goOn (.fetching _) hi rfl h.words ?_ ?_ ?_⟩
    · simp [Phase.misses, Phase.isWaiting]
      omega
    · simp [Phase.undecided]
      omega
    · simp [Phase.awaits, answered]
  | answer outcome hi =>
    refine ⟨_, _, h.goOn (.fetched _ _) hi rfl h.words rfl rfl ?_⟩
    simp [Phase.awaits, answered]
    omega
  | @store _ slug k outcome hi =>
    rw [findsAgain_eq now hi]
    obtain ⟨hcache, hcalls⟩ := store_counts s slug now outcome
    refine ⟨_, _, h.quiet (.stored k outcome) hi ?_ hcache hcalls ⟨rfl, rfl, rfl⟩⟩
    rw [setPhase, setPhase, store_loads]
  | release hi =>
    rw [findsAgain_eq now hi]
    exact ⟨_, _, h.quiet (.leaving _ _) hi rfl ⟨rfl, rfl⟩ rfl ⟨rfl, rfl, rfl⟩⟩
  | leave hi =>
    rw [findsAgain_eq now hi]
    exact ⟨_, _, h.quiet (.done _) hi rfl ⟨rfl, rfl⟩ rfl ⟨rfl, rfl, rfl⟩⟩

theorem answered_cons (step : Instant × Move) (steps : List (Instant × Move)) :
  answered (step :: steps) = answered [step] ++ answered steps
  := List.filterMap_append (l := [step])

theorem foundAgain_cons (hstep : Step s now m t) :
  s.foundAgain ((now, m) :: steps) = (s.findsAgain now m).toNat + t.foundAgain steps
  := by
  rw [foundAgain, move_eq_some_iff.mpr hstep]

theorem Tallied.run (h : Tallied given again found missed s) (hrun : s.run steps = some t) :
  ∃ found' missed', Tallied (given + (answered steps).length) (again + s.foundAgain steps)
    found' missed' t
  := by
  induction steps generalizing s given again found missed with
  | nil =>
    obtain rfl := Option.some.inj hrun
    use found, missed
    apply h
  | cons step steps ih =>
    obtain ⟨now, m⟩ := step
    obtain ⟨u, hstep, hrun⟩ := run_cons_eq_some_iff.mp hrun
    obtain ⟨_, _, hu⟩ := h.step hstep
    rw [answered_cons, foundAgain_cons hstep, List.length_append, ← Nat.add_assoc, ← Nat.add_assoc]
    apply ih hu hrun

/-- When every load is done the misses are twice the calls, and one more for every load that found
its edition at its second look; the other loads were hits. -/
theorem misses_of_settled {lifetime : Duration} {capacity : Nat}
    (hrun : (idle (.empty lifetime capacity)).run steps = some s) (hsettled : s.isSettled = true) :
  ∃ found missed, s.cache.HasCounted found missed ∧
    missed = 2 * s.calls.length + (idle (.empty lifetime capacity)).foundAgain steps ∧
    s.loads.length = s.calls.length + found ∧ s.calls.length = (answered steps).length
  := by
  obtain ⟨found, missed, h⟩ := (Tallied.idle lifetime capacity).run hrun
  have hmisses := h.misses
  have hhits := h.hits
  have hcalls := h.calls
  rw [tally_of_settled hsettled fun _ => rfl] at hmisses hhits hcalls
  simp only [Nat.zero_add] at hmisses hhits hcalls
  use found, missed, h.words, hmisses, hhits, hcalls

/-! ### The loads that the source answers -/

/-- The loads that have been answered are different, and none of them waits for its answer. -/
structure Past (answers : List Nat) (s : Loading) : Prop where
  nodup : answers.Nodup
  past : ∀ i ∈ answers, ∃ l, s.loads[i]? = some l ∧ l.phase.rank < 4

variable {answers : List Nat}

theorem Past.idle (cache : EditionCache) :
  Past [] (idle cache)
  := ⟨List.nodup_nil, nofun⟩

/-- A load only goes on, so it is not answered again. -/
theorem Past.goOn (h : Past answers s) (hstep : Step s now m t) :
  ∀ i ∈ answers, ∃ l, t.loads[i]? = some l ∧ l.phase.rank < 4
  := by
  intro i hi
  obtain ⟨l, hl, hrank⟩ := h.past i hi
  rcases hload : m.load? with _ | j
  · cases hstep with
    | begin slug =>
      use l, (List.getElem?_append_left (List.getElem?_eq_some_iff.mp hl).1).trans hl
    | _ => cases hload
  · obtain ⟨slug, p, q, hj, hloads, hlt⟩ := hstep.exists_setPhase hload
    rw [hloads]
    by_cases hij : i = j
    · subst hij
      rw [hj] at hl
      obtain rfl := Option.some.inj hl
      use ⟨slug, q⟩, setPhase_self q hj, Nat.lt_trans hlt hrank
    · rw [setPhase_of_ne q hij]
      use l, hl

theorem Past.step (h : Past answers s) (hstep : Step s now m t) :
  Past (answers ++ answered [(now, m)]) t
  := by
  have hgone := h.goOn hstep
  cases hstep with
  | @answer i slug k outcome hi =>
    have hnew : i ∉ answers := by
      intro hmem
      obtain ⟨l, hl, hrank⟩ := h.past i hmem
      obtain rfl := Option.some.inj (hi.symm.trans hl)
      cases Nat.lt_irrefl 4 hrank
    constructor
    · apply List.nodup_append.mpr
      use h.nodup, List.nodup_singleton i
      rintro j hj _ hi rfl
      obtain rfl := List.mem_singleton.mp hi
      apply hnew hj
    · intro j hj
      rcases List.mem_append.mp hj with hj | hj
      · apply hgone j hj
      · obtain rfl := List.mem_singleton.mp hj
        use ⟨slug, .fetched k outcome⟩, setPhase_self _ hi, Nat.lt_succ_self _
  | _ =>
    rw [answered, List.filterMap_cons_none rfl, List.filterMap_nil, List.append_nil]
    use h.nodup, hgone

theorem Past.run (h : Past answers s) (hrun : s.run steps = some t) :
  Past (answers ++ answered steps) t
  := by
  induction steps generalizing s answers with
  | nil =>
    obtain rfl := Option.some.inj hrun
    rw [answered, List.filterMap_nil, List.append_nil]
    apply h
  | cons step steps ih =>
    obtain ⟨now, m⟩ := step
    obtain ⟨u, hstep, hrun⟩ := run_cons_eq_some_iff.mp hrun
    rw [answered_cons, ← List.append_assoc]
    apply ih (h.step hstep) hrun

/-- There are as many answers as there are loads that have been answered. -/
theorem Past.countP (h : Past answers s) :
  (List.range s.loads.length).countP (fun i => decide (i ∈ answers)) = answers.length
  := by
  rw [List.countP_eq_length_filter]
  apply List.Perm.length_eq
  apply (List.perm_ext_iff_of_nodup (List.nodup_range.filter _) h.nodup).mpr
  intro i
  rw [List.mem_filter, List.mem_range, decide_eq_true_eq, and_iff_right_iff_imp]
  intro hi
  obtain ⟨l, hl, -⟩ := h.past i hi
  apply (List.getElem?_eq_some_iff.mp hl).1

end Loading

/-! ### One load after the other -/

/-- Whether a load has looked for its edition once, and may look again. -/
def Phase.seeks : Phase → Bool
  | .missed => true
  | .found _ => true
  | .waiting _ => true
  | _ => false

theorem Phase.rank_ne_zero_of_seeks {p : Phase} (h : p.seeks = true) :
  p.rank ≠ 0
  := by
  cases p with
  | missed => simp [rank]
  | found => simp [rank]
  | waiting => simp [rank]
  | _ => cases h

namespace Loading

variable {s t : Loading} {now last : Instant} {m : Move} {i j : Nat} {slug : String}
  {steps : List (Instant × Move)}

/-- At most one load is not done, and what it has not found in the cache is still not there. -/
structure Solitary (last : Instant) (s : Loading) : Prop where
  unique : ∀ (i j : Nat) (l l' : Load), s.loads[i]? = some l → s.loads[j]? = some l' →
    l.phase.rank ≠ 0 → l'.phase.rank ≠ 0 → i = j
  unfound : ∀ (i : Nat) (slug : String) (p : Phase), s.loads[i]? = some ⟨slug, p⟩ →
    p.seeks = true → ∀ later, last ≤ later → s.cache.peek slug later = none

namespace Solitary

theorem idle (last : Instant) (cache : EditionCache) :
  Solitary last (idle cache)
  := by
  constructor
  · intro i j l l' hl
    cases hl
  · intro i slug p hp
    cases hp

theorem begin (h : s.isSettled = true) (now : Instant) (slug : String) :
  Solitary now { s with loads := s.loads ++ [⟨slug, .begun⟩] }
  := by
  have hdone : ∀ (i : Nat) (l : Load), s.loads[i]? = some l → l.phase.rank = 0 := by
    intro i l hl
    apply outcome?_isSome_iff.mp
    apply List.all_eq_true.mp h _ (List.mem_of_getElem? hl)
  have hlast : ∀ (i : Nat) (l : Load), (s.loads ++ [⟨slug, .begun⟩])[i]? = some l →
      l.phase.rank ≠ 0 → i = s.loads.length ∧ l = ⟨slug, .begun⟩ := by
    intro i l hl hrank
    rw [List.getElem?_append] at hl
    split at hl
    · cases hrank (hdone i l hl)
    · have hzero := (List.getElem?_eq_some_iff.mp hl).1
      rw [List.length_singleton] at hzero
      have hi : i = s.loads.length := by omega
      rw [hi, Nat.sub_self] at hl
      use hi, (Option.some.inj hl).symm
  constructor
  · intro i j l l' hl hl' hrank hrank'
    rw [(hlast i l hl hrank).1, (hlast j l' hl' hrank').1]
  · intro i slug' p hp hseeks
    have hbegun := (hlast i _ hp (Phase.rank_ne_zero_of_seeks hseeks)).2
    obtain rfl := (Load.mk.inj hbegun).2
    cases hseeks

/-- A load that is not done goes on. -/
theorem goOn (h : Solitary last s) (p : Phase) {q : Phase} (hi : s.loads[i]? = some ⟨slug, q⟩)
    (hq : q.rank ≠ 0) (hloads : t.loads = (s.setPhase i p).loads)
    (hp : p.seeks = true → ∀ later, now ≤ later → t.cache.peek slug later = none) :
  Solitary now t
  := by
  have honly : ∀ j l, t.loads[j]? = some l → l.phase.rank ≠ 0 → j = i ∧ l = ⟨slug, p⟩ := by
    intro j l hl hrank
    rw [hloads] at hl
    apply (setPhase_cases hi hl).resolve_right
    rintro ⟨hji, hj⟩
    apply hji (h.unique j i l _ hj hi hrank hq)
  constructor
  · intro j k l l' hl hl' hrank hrank'
    rw [(honly j l hl hrank).1, (honly k l' hl' hrank').1]
  · intro j slug' r hj hseeks
    obtain ⟨-, heq⟩ := honly j _ hj (Phase.rank_ne_zero_of_seeks hseeks)
    obtain ⟨rfl, rfl⟩ := Load.mk.inj heq
    apply hp hseeks

/-- A load that is not done and does not look for the edition any more goes on. -/
theorem goOn_of_not_seeks (h : Solitary last s) {p q : Phase} (hi : s.loads[i]? = some ⟨slug, q⟩)
    (hq : q.rank ≠ 0) (hloads : t.loads = (s.setPhase i p).loads) (hp : p.seeks = false) :
  Solitary now t
  := by
  apply h.goOn p hi hq hloads
  intro hseeks
  rw [hp] at hseeks
  cases hseeks

theorem step (h : Solitary last s) (hlast : last ≤ now) (hstep : Step s now m t)
    (halone : s.allowsAlone m = true) :
  Solitary now t
  := by
  have hseek : ∀ {i : Nat} {slug : String} {p : Phase}, s.loads[i]? = some ⟨slug, p⟩ → p.seeks = true →
      ∀ later, now ≤ later → s.cache.peek slug later = none :=
    fun hi hp later hlater => h.unfound _ _ _ hi hp later (Nat.le_trans hlast hlater)
  cases hstep with
  | begin slug => apply begin halone
  | hit hi => exact h.goOn_of_not_seeks (p := .done _) hi (Nat.succ_ne_zero _) rfl rfl
  | miss hi hpeek =>
    refine h.goOn .missed hi (Nat.succ_ne_zero _) rfl fun _ later hlater => ?_
    rw [setPhase_cache, EditionCache.get_of_none hpeek]
    apply EditionCache.peek_later hpeek hlater
  | take hi => exact h.goOn (.found _) hi (Nat.succ_ne_zero _) rfl fun _ => hseek hi rfl
  | make hi => exact h.goOn (.found _) hi (Nat.succ_ne_zero _) rfl fun _ => hseek hi rfl
  | enqueue hi => exact h.goOn (.waiting _) hi (Nat.succ_ne_zero _) rfl fun _ => hseek hi rfl
  | hitAgain hi => exact h.goOn_of_not_seeks (p := .leaving _ _) hi (Nat.succ_ne_zero _) rfl rfl
  | missAgain hi => exact h.goOn_of_not_seeks (p := .missedAgain _) hi (Nat.succ_ne_zero _) rfl rfl
  | call hi => exact h.goOn_of_not_seeks (p := .fetching _) hi (Nat.succ_ne_zero _) rfl rfl
  | answer outcome hi => exact h.goOn_of_not_seeks (p := .fetched _ outcome) hi (Nat.succ_ne_zero _) rfl rfl
  | @store i slug k outcome hi =>
    refine h.goOn_of_not_seeks (p := .stored k outcome) hi (Nat.succ_ne_zero _) ?_ rfl
    rw [setPhase, setPhase, store_loads]
  | release hi => exact h.goOn_of_not_seeks (p := .leaving _ _) hi (Nat.succ_ne_zero _) rfl rfl
  | leave hi => exact h.goOn_of_not_seeks (p := .done _) hi (Nat.succ_ne_zero _) rfl rfl

/-- A load that is alone does not find what it has not found before. -/
theorem findsAgain_eq_false (h : Solitary last s) (hlast : last ≤ now) (m : Move) :
  s.findsAgain now m = false
  := by
  cases m with
  | begin slug => rfl
  | answer i outcome => rfl
  | advance i =>
    rcases hi : s.loads[i]? with _ | ⟨slug, p⟩
    · simp [findsAgain, hi]
    · rw [findsAgain_eq now hi]
      cases p with
      | waiting k =>
        rw [h.unfound i slug _ hi rfl now hlast]
        rfl
      | _ => rfl

end Solitary

/-- When loads come one after the other, at instants in their order, none finds its edition at its
second look. -/
theorem foundAgain_eq_zero (h : Solitary last s)
    (htimes : (last :: steps.map Prod.fst).Pairwise (· ≤ ·)) (halone : s.isOneByOne steps = true) :
  s.foundAgain steps = 0
  := by
  induction steps generalizing s last with
  | nil => rfl
  | cons step steps ih =>
    obtain ⟨now, m⟩ := step
    rw [List.map_cons, List.pairwise_cons] at htimes
    have hlast : last ≤ now := htimes.1 now List.mem_cons_self
    rcases hmove : s.move now m with _ | t
    · rw [foundAgain, hmove]
    · have hstep := move_eq_some_iff.mp hmove
      rw [isOneByOne, hmove, Bool.and_eq_true] at halone
      rw [foundAgain_cons hstep, h.findsAgain_eq_false hlast,
        ih (h.step hlast hstep halone.1) htimes.2 halone.2]
      rfl

/-- When loads come one after the other, the hits are the loads that the cache has answered, and
the misses are twice the loads that the source has answered, each of which has looked twice before
it called the source.  So hits and misses together count the loads and the calls.  They are counted in
words, which tell the numbers themselves as long as there are not too many loads and calls. -/
theorem misses_eq_two_mul_calls {lifetime : Duration} {capacity : Nat}
    (hrun : (idle (.empty lifetime capacity)).run steps = some s) (hsettled : s.isSettled = true)
    (halone : (idle (.empty lifetime capacity)).isOneByOne steps = true)
    (htimes : (steps.map Prod.fst).Pairwise (· ≤ ·)) :
  s.calls.length = (List.range s.loads.length).countP (fun i => decide (i ∈ answered steps)) ∧
    s.cache.misses = UInt64.ofNat (2 * s.calls.length) ∧
    s.cache.hits = UInt64.ofNat
      ((List.range s.loads.length).countP fun i => decide (i ∉ answered steps)) ∧
    s.cache.hits + s.cache.misses = UInt64.ofNat (s.loads.length + s.calls.length) ∧
    (s.loads.length + s.calls.length < 2 ^ 64 →
      s.cache.stats.misses = 2 * s.calls.length ∧
      s.cache.stats.hits
        = (List.range s.loads.length).countP (fun i => decide (i ∉ answered steps)) ∧
      s.cache.stats.hits + s.cache.stats.misses = s.loads.length + s.calls.length)
  := by
  obtain ⟨found, missed, ⟨hhits, hmisses⟩, hmissed, hfound, hcalls⟩ := misses_of_settled hrun hsettled
  have hfrom : (0 :: steps.map Prod.fst).Pairwise (· ≤ ·) :=
    List.pairwise_cons.mpr ⟨fun _ _ => Nat.zero_le _, htimes⟩
  rw [foundAgain_eq_zero (Solitary.idle 0 _) hfrom halone, Nat.add_zero] at hmissed
  have hcount := ((Past.idle _).run hrun).countP
  rw [List.nil_append, ← hcalls] at hcount
  have hsum := List.length_eq_countP_add_countP (fun i => decide (i ∈ answered steps))
    (l := List.range s.loads.length)
  rw [List.length_range, hcount] at hsum
  simp only [decide_eq_true_eq] at hsum
  have hfound' : found = (List.range s.loads.length).countP fun i => decide (i ∉ answered steps) := by
    omega
  rw [← hfound', ← hmissed]
  use hcount.symm, hmisses, hhits
  constructor
  · rw [hhits, hmisses, ← UInt64.ofNat_add]
    congr 1
    omega
  · intro hfew
    have hhits' : s.cache.stats.hits = found := by
      rw [EditionCache.stats, hhits]
      apply UInt64.toNat_ofNat_of_lt' (Nat.lt_of_le_of_lt _ hfew)
      omega
    have hmisses' : s.cache.stats.misses = missed := by
      rw [EditionCache.stats, hmisses]
      apply UInt64.toNat_ofNat_of_lt' (Nat.lt_of_le_of_lt _ hfew)
      omega
    rw [hhits', hmisses']
    use rfl, rfl
    omega

/-- A load that is fetched, one of the same edition that is in the cache, and one that fails. -/
def mixedSteps : List (Instant × Move) :=
  [(0, .begin "a"), (1, .advance 0), (2, .advance 0), (3, .advance 0), (4, .advance 0),
   (5, .advance 0), (6, .answer 0 (.ok [])), (7, .advance 0), (8, .advance 0), (9, .advance 0),
   (10, .begin "a"), (11, .advance 1),
   (12, .begin "b"), (13, .advance 2), (14, .advance 2), (15, .advance 2), (16, .advance 2),
   (17, .advance 2), (18, .answer 2 (.error .request)), (19, .advance 2), (20, .advance 2),
   (21, .advance 2)]

theorem misses_of_mixed :
  ∃ s, (idle (.empty 60 2)).run mixedSteps = some s ∧ s.isSettled = true ∧
    s.calls.length = 2 ∧ s.cache.stats.misses = 4 ∧ s.cache.stats.hits = 1
  := by
  obtain ⟨s, hrun⟩ : ∃ s, (idle (.empty 60 2)).run mixedSteps = some s := ⟨_, rfl⟩
  have hsettled : s.isSettled = true := by
    obtain rfl := Option.some.inj hrun
    rfl
  obtain ⟨hcalls, -, -, -, hcounts⟩ :=
    misses_eq_two_mul_calls hrun hsettled (by decide) (by decide)
  have hfew : s.loads.length + s.calls.length = 5 := by
    obtain rfl := Option.some.inj hrun
    rfl
  rw [hfew] at hcounts
  obtain ⟨hmisses, hhits, -⟩ := hcounts (by decide)
  use s, hrun, hsettled
  obtain rfl := Option.some.inj hrun
  exact ⟨hcalls, hmisses, hhits⟩

/-- One load, whose call of the source fails. -/
def failedSteps : List (Instant × Move) :=
  [(0, .begin "a"), (1, .advance 0), (2, .advance 0), (3, .advance 0), (4, .advance 0),
   (5, .advance 0), (6, .answer 0 (.error (.status 503))), (7, .advance 0), (8, .advance 0),
   (9, .advance 0)]

/-- A load that fails is counted as two misses. -/
theorem two_misses_for_one_call :
  ∃ s, (idle (.empty 60 2)).run failedSteps = some s ∧ s.isSettled = true ∧
    (idle (.empty 60 2)).isOneByOne failedSteps = true ∧
    (failedSteps.map Prod.fst).Pairwise (· ≤ ·) ∧
    s.loads.length = 1 ∧ s.calls = ["a"] ∧ s.cache.stats.misses = 2 ∧
    s.cache.stats.misses ≠ s.calls.length ∧
    s.cache.stats.hits + s.cache.stats.misses ≠ s.loads.length
  := by
  refine ⟨_, rfl, rfl, by decide, by decide, rfl, rfl, rfl, ?_, ?_⟩
  · decide
  · decide

end Loading

end HadithService
