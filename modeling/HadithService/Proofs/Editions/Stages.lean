import HadithService.Proofs.Editions.Frames

/-!
# The stages of an edition

When the source does not fail for an edition, and the cache keeps what it is given, the edition
goes through three stages: nobody has called the source (`Unasked`), one load has called it and is
the only one that can (`Asked`), and the edition is in the cache for good (`Kept`).
-/

namespace HadithService.Loading

variable {s t : Loading} {now : Instant} {m : Move} {i j k : Nat} {slug : String}

/-- A load that looks for the lock of its edition or waits for the given one. -/
def IsBehind (lock : Option Nat) : Phase → Prop
  | .begun => True
  | .missed => True
  | .found k => lock = some k
  | .waiting k => lock = some k
  | _ => False

/-- A load that has not got an edition yet and will not call the source, or has got the given
one. -/
def IsServed (hadiths : List Hadith) : Phase → Prop
  | .missedAgain _ => False
  | .fetching _ => False
  | .fetched _ _ => False
  | .stored _ outcome => outcome = .ok hadiths
  | .leaving _ outcome => outcome = .ok hadiths
  | .done outcome => outcome = .ok hadiths
  | _ => True

theorem IsBehind.isServed {lock : Option Nat} {hadiths : List Hadith} {p : Phase}
    (h : IsBehind lock p) :
  IsServed hadiths p
  := by
  cases p with
  | begun => trivial
  | missed => trivial
  | found => trivial
  | waiting => trivial
  | _ => cases h

/-- Nobody has called the source.  A load that is about to holds the lock on the table. -/
structure Unasked (slug : String) (s : Loading) : Prop where
  absent : ∀ e ∈ s.cache.editions, e.slug ≠ slug
  calls : s.calls.count slug = 0
  loads : ∀ (i : Nat) (p : Phase), s.loads[i]? = some ⟨slug, p⟩ →
    IsBehind (s.lock? slug) p ∨ ∃ k, p = .missedAgain k ∧ s.lock? slug = some k

/-- The load `i` has called the source and holds the lock `k`, which is on the table.  What the
source answers is in `G`. -/
structure Asked (G : List Hadith → Prop) (slug : String) (i k : Nat) (s : Loading) : Prop where
  absent : ∀ e ∈ s.cache.editions, e.slug ≠ slug
  calls : s.calls.count slug = 1
  lock : s.lock? slug = some k
  asker : ∃ p, s.loads[i]? = some ⟨slug, p⟩ ∧
    (p = .fetching k ∨ ∃ hadiths, G hadiths ∧ p = .fetched k (.ok hadiths))
  others : ∀ (j : Nat) (p : Phase), j ≠ i → s.loads[j]? = some ⟨slug, p⟩ → IsBehind (some k) p

/-- The edition is in the cache. -/
structure Kept (hadiths : List Hadith) (slug : String) (s : Loading) : Prop where
  present : ∃ e ∈ s.cache.editions, e.slug = slug ∧ e.hadiths = hadiths
  calls : s.calls.count slug = 1
  loads : ∀ (i : Nat) (p : Phase), s.loads[i]? = some ⟨slug, p⟩ → IsServed hadiths p

theorem not_peek_of_absent {hadiths : List Hadith}
    (habsent : ∀ e ∈ s.cache.editions, e.slug ≠ slug) :
  s.cache.peek slug now ≠ some hadiths
  := by
  intro hpeek
  obtain ⟨e, he, hslug, -⟩ := EditionCache.mem_of_peek hpeek
  apply habsent e he hslug

theorem Unaffected.absent (h : Unaffected slug s t)
    (habsent : ∀ e ∈ s.cache.editions, e.slug ≠ slug) :
  ∀ e ∈ t.cache.editions, e.slug ≠ slug
  := by
  intro e he hslug
  apply habsent e ((h.editions e hslug).mp he) hslug

namespace Unasked

theorem congr (h : Unasked slug s) (hst : Unaffected slug s t) :
  Unasked slug t
  where
    absent := hst.absent h.absent
    calls := hst.calls.trans h.calls
    loads i p hi := hst.lock ▸ h.loads i p ((hst.loads i p).mp hi)

theorem begin (h : Unasked slug s) (slug' : String) :
  Unasked slug { s with loads := s.loads ++ [⟨slug', .begun⟩] }
  where
    absent := h.absent
    calls := h.calls
    loads := by
      intro i p hi
      rcases getElem?_begin hi with hi | rfl
      · apply h.loads i p hi
      · left
        trivial

theorem setPhase (h : Unasked slug s) {p q : Phase} (hi : s.loads[i]? = some ⟨slug, q⟩)
    (hp : IsBehind (s.lock? slug) p ∨ ∃ k, p = .missedAgain k ∧ s.lock? slug = some k) :
  Unasked slug (s.setPhase i p)
  where
    absent := h.absent
    calls := h.calls
    loads := by
      intro j r hj
      rcases setPhase_phase_cases hi hj with ⟨-, -, rfl⟩ | ⟨-, hj⟩
      · apply hp
      · apply h.loads j r hj

/-- A load that has got a lock has the one on the table. -/
theorem lock_of_load (h : Unasked slug s) {p : Phase} (hi : s.loads[i]? = some ⟨slug, p⟩)
    (hp : p.lock? = some k) :
  s.lock? slug = some k
  := by
  rcases h.loads i p hi with hbehind | ⟨k', rfl, hk'⟩
  · cases p with
    | found k' =>
      obtain rfl := Option.some.inj hp
      apply hbehind
    | waiting k' =>
      obtain rfl := Option.some.inj hp
      apply hbehind
    | begun => cases hp
    | missed => cases hp
    | _ => cases hbehind
  · obtain rfl := Option.some.inj hp
    apply hk'

/-- A load that holds the lock has not called the source yet. -/
theorem phase_of_held (h : Unasked slug s) {p : Phase} (hi : s.loads[i]? = some ⟨slug, p⟩)
    (hp : p.held? = some k) :
  p = .missedAgain k
  := by
  rcases h.loads i p hi with hbehind | ⟨k', rfl, -⟩
  · cases p with
    | missedAgain => cases hbehind
    | fetching => cases hbehind
    | fetched => cases hbehind
    | stored => cases hbehind
    | leaving => cases hbehind
    | _ => cases hp
  · rw [Option.some.inj hp]

theorem make (h : Unasked slug s) (hlock : s.lock? slug = none) (queues : List (List Nat)) :
  Unasked slug { s with table := (slug, k) :: s.table, queues := queues }
  where
    absent := h.absent
    calls := h.calls
    loads := by
      intro i p hi
      left
      rcases h.loads i p hi with hp | ⟨k', -, hk'⟩
      · cases p with
        | begun => trivial
        | missed => trivial
        | found k' => cases hlock.symm.trans hp
        | waiting k' => cases hlock.symm.trans hp
        | _ => cases hp
      · cases hlock.symm.trans hk'

/-- The first call of the source.  Only one load can be about to make it, since it holds the
lock. -/
theorem call {G : List Hadith → Prop} (h : Unasked slug s) (horderly : Orderly s)
    (hi : s.loads[i]? = some ⟨slug, .missedAgain k⟩) :
  Asked G slug i k ({ s with calls := s.calls ++ [slug] }.setPhase i (.fetching k))
  where
    absent := h.absent
    calls := by
      rw [setPhase_calls, List.count_append, h.calls]
      simp
    lock := h.lock_of_load hi rfl
    asker := ⟨.fetching k, setPhase_self (s := { s with calls := _ }) _ hi, .inl rfl⟩
    others := by
      intro j p hji hj
      have hk := h.lock_of_load hi rfl
      obtain ⟨heq, -⟩ | ⟨-, hj'⟩ := setPhase_phase_cases (s := { s with calls := _ }) hi hj
      · cases hji heq
      · rcases h.loads j p hj' with hp | ⟨k', rfl, hk'⟩
        · rw [← hk]
          apply hp
        · obtain rfl := Option.some.inj (hk'.symm.trans hk)
          cases hji (horderly.held_unique hj' rfl hi rfl)

/-- An edition that nobody has asked the source for stays so, or one load asks for it. -/
theorem step {G : List Hadith → Prop} (h : Unasked slug s) (horderly : Orderly s)
    (hsubject : s.subject? m = some slug) (hstep : Step s now m t) :
  Unasked slug t ∨ ∃ i k, Asked G slug i k t
  := by
  cases hstep with
  | begin slug' =>
    left
    apply h.begin
  | hit hi hpeek =>
    obtain rfl := slug_of_subject hi hsubject
    cases not_peek_of_absent h.absent hpeek
  | miss hi =>
    obtain rfl := slug_of_subject hi hsubject
    left
    exact (h.congr (.lookUp _ _ s now)).setPhase hi (.inl trivial)
  | take hi hlock =>
    obtain rfl := slug_of_subject hi hsubject
    left
    exact h.setPhase hi (.inl hlock)
  | make hi hlock =>
    obtain rfl := slug_of_subject hi hsubject
    left
    apply (h.make hlock _).setPhase hi
    left
    simp [IsBehind, lock?]
  | enqueue hi =>
    obtain rfl := slug_of_subject hi hsubject
    left
    exact (h.congr (.queues _ s _)).setPhase hi (.inl (h.lock_of_load hi rfl))
  | hitAgain hi _ hpeek =>
    obtain rfl := slug_of_subject hi hsubject
    cases not_peek_of_absent h.absent hpeek
  | missAgain hi =>
    obtain rfl := slug_of_subject hi hsubject
    left
    exact (h.congr (.lookUp _ _ s now)).setPhase hi (.inr ⟨_, rfl, h.lock_of_load hi rfl⟩)
  | call hi =>
    obtain rfl := slug_of_subject hi hsubject
    right
    exact ⟨_, _, h.call horderly hi⟩
  | answer outcome hi =>
    obtain rfl := slug_of_subject hi hsubject
    cases h.phase_of_held hi rfl
  | store hi =>
    obtain rfl := slug_of_subject hi hsubject
    cases h.phase_of_held hi rfl
  | release hi =>
    obtain rfl := slug_of_subject hi hsubject
    cases h.phase_of_held hi rfl
  | leave hi =>
    obtain rfl := slug_of_subject hi hsubject
    cases h.phase_of_held hi rfl

end Unasked

namespace Asked

variable {G : List Hadith → Prop}

theorem congr (h : Asked G slug i k s) (hst : Unaffected slug s t) :
  Asked G slug i k t
  where
    absent := hst.absent h.absent
    calls := hst.calls.trans h.calls
    lock := hst.lock.trans h.lock
    asker := by
      obtain ⟨p, hi, hp⟩ := h.asker
      use p, (hst.loads i p).mpr hi
    others j p hji hj := h.others j p hji ((hst.loads j p).mp hj)

/-- The load that has called the source holds the lock. -/
theorem asker_holds (h : Asked G slug i k s) :
  ∃ p, s.loads[i]? = some ⟨slug, p⟩ ∧ p.held? = some k
  := by
  obtain ⟨p, hi, rfl | ⟨hadiths, -, rfl⟩⟩ := h.asker
  · use .fetching k, hi
    rfl
  · use .fetched k (.ok hadiths), hi
    rfl

/-- A load that holds a lock of the edition is the one that has called the source. -/
theorem phase_of_held (h : Asked G slug i k s) {p : Phase} (hj : s.loads[j]? = some ⟨slug, p⟩)
    (hp : p.held? = some k') :
  j = i ∧ (p = .fetching k ∨ ∃ hadiths, G hadiths ∧ p = .fetched k (.ok hadiths))
  := by
  by_cases hji : j = i
  · subst hji
    obtain ⟨q, hi, hq⟩ := h.asker
    obtain ⟨-, rfl⟩ := Load.mk.inj (Option.some.inj (hj.symm.trans hi))
    use rfl, hq
  · have hbehind := h.others j p hji hj
    cases p with
    | begun => cases hp
    | missed => cases hp
    | found => cases hp
    | waiting => cases hp
    | _ => cases hbehind

/-- A load that holds no lock is not the one that has called the source. -/
theorem ne_of_not_held (h : Asked G slug i k s) {p : Phase} (hj : s.loads[j]? = some ⟨slug, p⟩)
    (hp : p.held? = none) :
  j ≠ i
  := by
  rintro rfl
  obtain ⟨q, hj', hq⟩ := h.asker_holds
  rw [hj] at hj'
  obtain ⟨-, rfl⟩ := Load.mk.inj (Option.some.inj hj')
  cases hp.symm.trans hq

theorem begin (h : Asked G slug i k s) (slug' : String) :
  Asked G slug i k { s with loads := s.loads ++ [⟨slug', .begun⟩] }
  where
    absent := h.absent
    calls := h.calls
    lock := h.lock
    asker := by
      obtain ⟨p, hi, hp⟩ := h.asker
      use p
      rw [List.getElem?_append_left (List.getElem?_eq_some_iff.mp hi).1]
      use hi
    others := by
      intro j p hji hj
      rcases getElem?_begin hj with hj | rfl
      · apply h.others j p hji hj
      · trivial

/-- The other loads go on behind the one that has called the source. -/
theorem setPhase (h : Asked G slug i k s) {p q : Phase} (hj : s.loads[j]? = some ⟨slug, q⟩)
    (hji : j ≠ i) (hp : IsBehind (some k) p) :
  Asked G slug i k (s.setPhase j p)
  where
    absent := h.absent
    calls := h.calls
    lock := h.lock
    asker := by
      obtain ⟨r, hi, hr⟩ := h.asker
      use r
      rw [setPhase_of_ne p hji.symm]
      use hi
    others := by
      intro j' r hji' hj'
      rcases setPhase_phase_cases hj hj' with ⟨-, -, rfl⟩ | ⟨-, hj'⟩
      · apply hp
      · apply h.others j' r hji' hj'

/-- The answer of the source. -/
theorem answer (h : Asked G slug i k s) {hadiths : List Hadith} (hG : G hadiths)
    (hi : s.loads[i]? = some ⟨slug, .fetching k⟩) :
  Asked G slug i k (s.setPhase i (.fetched k (.ok hadiths)))
  where
    absent := h.absent
    calls := h.calls
    lock := h.lock
    asker := ⟨_, setPhase_self _ hi, .inr ⟨hadiths, hG, rfl⟩⟩
    others := by
      intro j p hji hj
      rcases setPhase_phase_cases hi hj with ⟨heq, -⟩ | ⟨-, hj⟩
      · cases hji heq
      · apply h.others j p hji hj

/-- The edition that came is put into the cache. -/
theorem store (h : Asked G slug i k s) {hadiths : List Hadith}
    (hi : s.loads[i]? = some ⟨slug, .fetched k (.ok hadiths)⟩) :
  Kept hadiths slug ((s.store slug now (.ok hadiths)).setPhase i (.stored k (.ok hadiths)))
  where
    present := ⟨_, EditionCache.mem_insert_self s.cache slug hadiths now, rfl, rfl⟩
    calls := h.calls
    loads := by
      intro j p hj
      obtain ⟨-, -, rfl⟩ | ⟨hji, hj⟩ := setPhase_phase_cases (s := s.store slug now _) hi hj
      · rfl
      · apply (h.others j p hji hj).isServed

/-- While the source is being asked for an edition nobody else asks for it, and when the edition
has come it is kept. -/
theorem step (h : Asked G slug i k s) (horderly : Orderly s)
    (hsubject : s.subject? m = some slug)
    (hanswer : ∀ j outcome, m = .answer j outcome → ∃ hadiths, G hadiths ∧ outcome = .ok hadiths)
    (hstep : Step s now m t) :
  Asked G slug i k t ∨ ∃ hadiths, G hadiths ∧ Kept hadiths slug t
  := by
  cases hstep with
  | begin slug' =>
    obtain rfl := Option.some.inj hsubject
    left
    apply h.begin
  | hit hi hpeek =>
    obtain rfl := slug_of_subject hi hsubject
    cases not_peek_of_absent h.absent hpeek
  | miss hj =>
    obtain rfl := slug_of_subject hj hsubject
    left
    exact (h.congr (.lookUp _ _ s now)).setPhase hj (h.ne_of_not_held hj rfl) trivial
  | take hj hlock =>
    obtain rfl := slug_of_subject hj hsubject
    left
    exact h.setPhase hj (h.ne_of_not_held hj rfl) (h.lock.symm.trans hlock)
  | make hj hlock =>
    obtain rfl := slug_of_subject hj hsubject
    cases h.lock.symm.trans hlock
  | enqueue hj =>
    obtain rfl := slug_of_subject hj hsubject
    have hji := h.ne_of_not_held hj rfl
    have hk : some k = some _ := h.others _ _ hji hj
    left
    exact (h.congr (.queues _ s _)).setPhase hj hji hk
  | hitAgain hj _ hpeek =>
    obtain rfl := slug_of_subject hj hsubject
    cases not_peek_of_absent h.absent hpeek
  | missAgain hj hhead =>
    obtain rfl := slug_of_subject hj hsubject
    have hji := h.ne_of_not_held hj rfl
    obtain ⟨p, hi, hp⟩ := h.asker_holds
    obtain rfl := Option.some.inj (h.others _ _ hji hj)
    have hhead' := horderly.head_of_held i _ _ hi hp
    rw [holds_iff.mp hhead] at hhead'
    cases hji (Option.some.inj hhead')
  | call hj =>
    obtain rfl := slug_of_subject hj hsubject
    rcases h.phase_of_held hj rfl with ⟨-, hp | ⟨_, -, hp⟩⟩
    · cases hp
    · cases hp
  | answer outcome hj =>
    obtain rfl := slug_of_subject hj hsubject
    rcases h.phase_of_held hj rfl with ⟨rfl, hp | ⟨_, -, hp⟩⟩
    · cases hp
      obtain ⟨hadiths, hG, rfl⟩ := hanswer _ _ rfl
      left
      exact h.answer hG hj
    · cases hp
  | store hj =>
    obtain rfl := slug_of_subject hj hsubject
    rcases h.phase_of_held hj rfl with ⟨rfl, hp | ⟨hadiths, hG, hp⟩⟩
    · cases hp
    · cases hp
      right
      use hadiths, hG
      apply h.store hj
  | release hj =>
    obtain rfl := slug_of_subject hj hsubject
    rcases h.phase_of_held hj rfl with ⟨-, hp | ⟨_, -, hp⟩⟩
    · cases hp
    · cases hp
  | leave hj =>
    obtain rfl := slug_of_subject hj hsubject
    rcases h.phase_of_held hj rfl with ⟨-, hp | ⟨_, -, hp⟩⟩
    · cases hp
    · cases hp

end Asked

namespace Kept

variable {hadiths : List Hadith}

theorem congr (h : Kept hadiths slug s) (hst : Unaffected slug s t) :
  Kept hadiths slug t
  where
    present := by
      obtain ⟨e, he, hslug, heq⟩ := h.present
      use e, (hst.editions e hslug).mpr he
    calls := hst.calls.trans h.calls
    loads i p hi := h.loads i p ((hst.loads i p).mp hi)

theorem setPhase (h : Kept hadiths slug s) {p q : Phase} (hi : s.loads[i]? = some ⟨slug, q⟩)
    (hp : IsServed hadiths p) :
  Kept hadiths slug (s.setPhase i p)
  where
    present := h.present
    calls := h.calls
    loads := by
      intro j r hj
      rcases setPhase_phase_cases hi hj with ⟨-, -, rfl⟩ | ⟨-, hj⟩
      · apply hp
      · apply h.loads j r hj

/-- The locks do not matter any more. -/
theorem relock (h : Kept hadiths slug s) (table : List (String × Nat)) (queues : List (List Nat)) :
  Kept hadiths slug { s with table := table, queues := queues }
  := { h with }

/-- A lookup finds the edition as long as it is valid. -/
theorem peek (h : Kept hadiths slug s) (hdistinct : s.cache.Distinct)
    (hfresh : ∀ e ∈ s.cache.editions, now - e.fetchedAt ≤ s.cache.lifetime) :
  s.cache.peek slug now = some hadiths
  := by
  obtain ⟨e, he, rfl, rfl⟩ := h.present
  apply hdistinct.peek he (hfresh e he)

/-- An edition that is kept stays so: no load asks for it any more. -/
theorem step (h : Kept hadiths slug s) (hdistinct : s.cache.Distinct)
    (hfresh : ∀ e ∈ s.cache.editions, now - e.fetchedAt ≤ s.cache.lifetime)
    (hsubject : s.subject? m = some slug) (hstep : Step s now m t) :
  Kept hadiths slug t
  := by
  have hpeek := h.peek hdistinct hfresh
  cases hstep with
  | begin slug' =>
    constructor
    · apply h.present
    · apply h.calls
    · intro i p hi
      rcases getElem?_begin hi with hi | rfl
      · apply h.loads i p hi
      · trivial
  | hit hi hpeek' =>
    obtain rfl := slug_of_subject hi hsubject
    obtain rfl := Option.some.inj (hpeek.symm.trans hpeek')
    exact (h.congr (.lookUp _ _ s now)).setPhase hi rfl
  | miss hi =>
    obtain rfl := slug_of_subject hi hsubject
    exact (h.congr (.lookUp _ _ s now)).setPhase hi trivial
  | take hi =>
    obtain rfl := slug_of_subject hi hsubject
    exact h.setPhase (p := .found _) hi trivial
  | make hi =>
    obtain rfl := slug_of_subject hi hsubject
    exact (h.relock _ _).setPhase (p := .found _) hi trivial
  | enqueue hi =>
    obtain rfl := slug_of_subject hi hsubject
    exact (h.congr (.queues _ s _)).setPhase (p := .waiting _) hi trivial
  | hitAgain hi _ hpeek' =>
    obtain rfl := slug_of_subject hi hsubject
    obtain rfl := Option.some.inj (hpeek.symm.trans hpeek')
    exact (h.congr (.lookUp _ _ s now)).setPhase hi rfl
  | missAgain hi _ hpeek' =>
    obtain rfl := slug_of_subject hi hsubject
    cases hpeek.symm.trans hpeek'
  | call hi =>
    obtain rfl := slug_of_subject hi hsubject
    cases h.loads _ _ hi
  | answer outcome hi =>
    obtain rfl := slug_of_subject hi hsubject
    cases h.loads _ _ hi
  | store hi =>
    obtain rfl := slug_of_subject hi hsubject
    cases h.loads _ _ hi
  | release hi =>
    obtain rfl := slug_of_subject hi hsubject
    have houtcome : _ = Except.ok hadiths := h.loads _ _ hi
    exact (h.relock _ s.queues).setPhase (p := .leaving _ _) hi houtcome
  | leave hi =>
    obtain rfl := slug_of_subject hi hsubject
    have houtcome : _ = Except.ok hadiths := h.loads _ _ hi
    exact (h.congr (.queues _ s _)).setPhase (p := .done _) hi houtcome

end Kept

end HadithService.Loading
