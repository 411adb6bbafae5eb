import HadithService.Proofs.Editions.Loading

/-!
# What the source vouches for

Whatever a source answers to a call for an edition may be known to have a property, such as to be
what the source always has, or to be made of hadiths of a certain form.  Whatever is in the cache
then has the property, and so does whatever a load has got, from the cache or from the source
(`Loading.Vouched`).
-/

namespace HadithService

variable {Q : String → Fetched → Prop}

/-! ### The cache -/

namespace EditionCache

variable {c : EditionCache} {slug : String} {hadiths : List Hadith} {now : Instant}

/-- Every edition in the cache has the property under its identifier. -/
def Vouched (Q : String → Fetched → Prop) (c : EditionCache) : Prop :=
  ∀ e ∈ c.editions, Q e.slug (.ok e.hadiths)

namespace Vouched

theorem empty (lifetime : Duration) (capacity : Nat) :
  (empty lifetime capacity).Vouched Q
  := by
  intro e he
  cases he

theorem peek (h : c.Vouched Q) (hpeek : c.peek slug now = some hadiths) :
  Q slug (.ok hadiths)
  := by
  obtain ⟨e, he, rfl, rfl⟩ := mem_of_peek hpeek
  apply h e he

theorem get (h : c.Vouched Q) (slug : String) (now : Instant) :
  (c.get slug now).2.Vouched Q
  := by
  rw [Vouched, get_editions]
  apply h

theorem prune (h : c.Vouched Q) (now : Instant) :
  (c.prune now).Vouched Q
  := by
  intro e he
  apply h e ((prune_sublist c now).subset he)

theorem insert (h : c.Vouched Q) (hslug : Q slug (.ok hadiths)) (now : Instant) :
  (c.insert slug hadiths now).Vouched Q
  := by
  intro e he
  rcases mem_insert he with rfl | he
  · apply hslug
  · apply h e he

end Vouched

end EditionCache

/-! ### The loads -/

/-- What a load has got. -/
def Phase.got? : Phase → Option Fetched
  | .fetched _ outcome => some outcome
  | .stored _ outcome => some outcome
  | .leaving _ outcome => some outcome
  | .done outcome => some outcome
  | _ => none

namespace Loading

variable {s t : Loading} {now : Instant} {m : Move} {i : Nat} {slug : String}

/-- What is in the cache and what loads have got has the property. -/
structure Vouched (Q : String → Fetched → Prop) (s : Loading) : Prop where
  cache : s.cache.Vouched Q
  loads : ∀ (i : Nat) (l : Load) (outcome : Fetched), s.loads[i]? = some l →
    l.phase.got? = some outcome → Q l.slug outcome

/-- The source answers with something that has the property. -/
def Answers (Q : String → Fetched → Prop) (s : Loading) (m : Move) : Prop :=
  ∀ i outcome, m = .answer i outcome → ∀ l, s.loads[i]? = some l → Q l.slug outcome

namespace Vouched

theorem idle {cache : EditionCache} (h : cache.Vouched Q) :
  Vouched Q (idle cache)
  where
    cache := h
    loads := by simp [Loading.idle]

theorem begin (h : Vouched Q s) (slugs : List String) :
  Vouched Q { s with loads := s.loads ++ slugs.map fun slug => ⟨slug, .begun⟩ }
  where
    cache := h.cache
    loads := by
      intro i l outcome hl hgot
      rcases getElem?_begun hl with hl | ⟨slug, -, rfl⟩
      · apply h.loads i l outcome hl hgot
      · cases hgot

/-- A load may go on to a phase in which what it has got has the property. -/
theorem update (h : Vouched Q s) {p q : Phase} (hi : s.loads[i]? = some ⟨slug, q⟩)
    (hcache : t.cache.Vouched Q) (hloads : t.loads = (s.setPhase i p).loads)
    (hp : ∀ outcome, p.got? = some outcome → Q slug outcome) :
  Vouched Q t
  where
    cache := hcache
    loads := by
      intro j l outcome hl hgot
      rw [hloads] at hl
      rcases setPhase_cases hi hl with ⟨-, rfl⟩ | ⟨-, hl⟩
      · apply hp outcome hgot
      · apply h.loads j l outcome hl hgot

/-- A load that has got nothing yet may go on to where it still has got nothing. -/
theorem goOn (h : Vouched Q s) {p q : Phase} (hi : s.loads[i]? = some ⟨slug, q⟩)
    (hcache : t.cache.Vouched Q) (hloads : t.loads = (s.setPhase i p).loads)
    (hp : p.got? = none) :
  Vouched Q t
  := by
  apply h.update hi hcache hloads
  intro outcome hgot
  rw [hp] at hgot
  cases hgot

/-- A load that has got something may go on with it. -/
theorem keep (h : Vouched Q s) {p q : Phase} (hi : s.loads[i]? = some ⟨slug, q⟩)
    (hcache : t.cache.Vouched Q) (hloads : t.loads = (s.setPhase i p).loads)
    (hp : p.got? = q.got?) :
  Vouched Q t
  := by
  apply h.update hi hcache hloads
  intro outcome hgot
  apply h.loads i _ outcome hi (hp ▸ hgot)

/-- Every step keeps the property. -/
theorem step (h : Vouched Q s) (hstep : Step s now m t) (hanswer : Answers Q s m) :
  Vouched Q t
  := by
  have hget : ∀ slug, (s.cache.get slug now).2.Vouched Q := fun slug => h.cache.get slug now
  cases hstep with
  | begin slug => exact h.begin [slug]
  | @hit i slug hadiths hi hpeek =>
    refine h.update (p := .done (.ok hadiths)) hi (hget slug) rfl ?_
    rintro _ ⟨⟩
    apply h.cache.peek hpeek
  | miss hi => exact h.goOn (p := .missed) hi (hget _) rfl rfl
  | @take i slug k hi => exact h.goOn (p := .found k) hi h.cache rfl rfl
  | make hi => exact h.goOn (p := .found s.queues.length) hi h.cache rfl rfl
  | @enqueue i slug k hi => exact h.goOn (p := .waiting k) hi h.cache rfl rfl
  | @hitAgain i slug k hadiths hi hhead hpeek =>
    refine h.update (p := .leaving k (.ok hadiths)) hi (hget slug) rfl ?_
    rintro _ ⟨⟩
    apply h.cache.peek hpeek
  | @missAgain i slug k hi => exact h.goOn (p := .missedAgain k) hi (hget slug) rfl rfl
  | @call i slug k hi => exact h.goOn (p := .fetching k) hi h.cache rfl rfl
  | @answer i slug k outcome hi =>
    refine h.update (p := .fetched k outcome) hi h.cache rfl ?_
    rintro _ ⟨⟩
    apply hanswer i outcome rfl _ hi
  | @store i slug k outcome hi =>
    have houtcome : Q slug outcome := h.loads i _ outcome hi rfl
    cases outcome with
    | error e => exact h.keep (p := .stored k (.error e)) hi h.cache rfl rfl
    | ok hadiths =>
      have hcache := h.cache.insert houtcome now
      exact h.keep (p := .stored k (.ok hadiths)) hi hcache rfl rfl
  | @release i slug k outcome hi => exact h.keep (p := .leaving k outcome) hi h.cache rfl rfl
  | @leave i slug k outcome hi => exact h.keep (p := .done outcome) hi h.cache rfl rfl

/-- What a load that is done has got has the property. -/
theorem outcome (h : Vouched Q s) {l : Load} {outcome : Fetched} (hl : l ∈ s.loads)
    (houtcome : outcome? l = some outcome) :
  Q l.slug outcome
  := by
  obtain ⟨i, hi⟩ := List.mem_iff_getElem?.mp hl
  obtain ⟨slug, p⟩ := l
  cases p with
  | done outcome' => apply h.loads i _ outcome hi houtcome
  | _ => cases houtcome

end Vouched

end Loading

end HadithService
