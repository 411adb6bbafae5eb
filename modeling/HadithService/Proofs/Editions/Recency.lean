import HadithService.Editions.Insertions
import HadithService.Proofs.Editions.Cache
import HadithService.Proofs.Limits.Counters

/-!
# The most recent editions

Of the insertions into a cache only the last one under every identifier counts, and of these a
cache holds the most recent: as many as it may hold, or else all that have not expired
(`EditionCache.Keeps`).  Sweeps, overwriting and driving out all keep this up, because what they
drop is always less recent than what they leave.  So a lookup finds the last insertion under an
identifier exactly as long as it has not expired and there have not been too many other identifiers
since (`EditionCache.holds_most_recent`).
-/

namespace HadithService.EditionCache

variable {c : EditionCache} {history : List CachedEdition} {last now : Instant} {slug : String}
  {hadiths : List Hadith} {e f : CachedEdition}

/-! ### Recent insertions -/

/-- The last insertion under every identifier, from the last to the first. -/
def recent : List CachedEdition → List CachedEdition
  | [] => []
  | e :: rest => e :: (recent rest).filter fun f => f.slug != e.slug

theorem recent_sublist (history : List CachedEdition) :
  List.Sublist (recent history) history
  := by
  induction history with
  | nil => apply List.Sublist.slnil
  | cons e rest ih => exact (List.filter_sublist.trans ih).cons_cons e

theorem mem_recent :
  e ∈ recent history ↔ latest? history e.slug = some e
  := by
  induction history with
  | nil => simp [recent, latest?]
  | cons f rest ih =>
    rw [recent, latest?, List.find?_cons, List.mem_cons, List.mem_filter, ih, latest?]
    by_cases hslug : f.slug = e.slug
    · simp [hslug, eq_comm]
    · have hne : e ≠ f := fun h => hslug (congrArg CachedEdition.slug h.symm)
      have hskip : (f.slug == e.slug) = false := by simpa using hslug
      simp [hskip, hne, Ne.symm hslug]

theorem nodup_recent (history : List CachedEdition) :
  ((recent history).map CachedEdition.slug).Nodup
  := by
  induction history with
  | nil => apply List.nodup_nil
  | cons e rest ih =>
    rw [recent, List.map_cons, List.nodup_cons]
    constructor
    · simp
    · apply List.Nodup.sublist (List.filter_sublist.map _) ih

/-- When whatever comes before something wanted is wanted too, what is wanted comes first. -/
theorem filter_isPrefix {l : List CachedEdition} {p : CachedEdition → Bool}
    (h : l.Pairwise fun e f => p f = true → p e = true) :
  l.filter p <+: l
  := by
  induction l with
  | nil => apply List.prefix_rfl
  | cons e l ih =>
    obtain ⟨hfirst, hrest⟩ := List.pairwise_cons.mp h
    by_cases he : p e = true
    · rw [List.filter_cons_of_pos he]
      apply (List.prefix_cons_inj e).mpr (ih hrest)
    · have hnil : l.filter p = [] := by
        rw [List.filter_eq_nil_iff]
        intro f hf hpf
        apply he (hfirst f hf hpf)
      rw [List.filter_cons_of_neg he, hnil]
      apply List.nil_prefix

/-- From the last to the first. -/
def Descending (l : List CachedEdition) : Prop :=
  l.Pairwise fun e f => f.fetchedAt < e.fetchedAt

/-- A member of a list is among the first if there are not too many later ones. -/
theorem Descending.mem_prefix_iff {l first : List CachedEdition} (h : Descending l)
    (hfirst : first <+: l) (he : e ∈ l) :
  e ∈ first ↔ (l.filter fun f => e.fetchedAt < f.fetchedAt).length < first.length
  := by
  obtain ⟨before, after, rfl⟩ := List.append_of_mem he
  obtain ⟨-, hafter, hbefore⟩ := List.pairwise_append.mp h
  have hlater : (before ++ e :: after).filter (fun f => decide (e.fetchedAt < f.fetchedAt))
      = before := by
    rw [List.filter_append, List.filter_eq_self.mpr, List.filter_eq_nil_iff.mpr, List.append_nil]
    · intro f hf
      rw [decide_eq_true_eq, Nat.not_lt]
      rcases List.mem_cons.mp hf with rfl | hf
      · apply Nat.le_refl
      · apply Nat.le_of_lt (List.rel_of_pairwise_cons hafter hf)
    · intro f hf
      rw [decide_eq_true_eq]
      apply hbefore f hf e List.mem_cons_self
  rw [hlater]
  constructor
  · intro hmem
    by_contra hle
    have hstart : first <+: before :=
      List.prefix_of_prefix_length_le hfirst (List.prefix_append _ _) (Nat.not_lt.mp hle)
    apply Nat.lt_irrefl e.fetchedAt
    apply hbefore e (hstart.subset hmem) e List.mem_cons_self
  · intro hlt
    have hsplit : before ++ [e] <+: before ++ e :: after := by
      use after
      simp
    have hstart : before ++ [e] <+: first := by
      apply List.prefix_of_prefix_length_le hsplit hfirst
      rw [List.length_append]
      apply hlt
    apply hstart.subset
    simp

theorem latest?_eq_some (h : latest? history slug = some e) :
  e ∈ history ∧ e.slug = slug
  := by
  constructor
  · apply List.mem_of_find?_eq_some h
  · simpa using List.find?_some h

/-- Of the insertions under an identifier none is later than the last one. -/
theorem Descending.exists_latest (h : Descending history) (he : e ∈ history) :
  ∃ f, latest? history e.slug = some f ∧ e.fetchedAt ≤ f.fetchedAt
  := by
  induction history with
  | nil => cases he
  | cons f rest ih =>
    obtain ⟨hfirst, hrest⟩ := List.pairwise_cons.mp h
    rw [latest?, List.find?_cons]
    by_cases hslug : f.slug = e.slug
    · use f
      rw [hslug, beq_self_eq_true]
      use rfl
      rcases List.mem_cons.mp he with rfl | he
      · apply Nat.le_refl
      · apply Nat.le_of_lt (hfirst e he)
    · have hskip : (f.slug == e.slug) = false := by simpa using hslug
      rw [hskip]
      rcases List.mem_cons.mp he with rfl | he
      · contradiction
      · apply ih hrest he

/-- The other identifiers since the last insertion under an identifier are those of the later ones
among the last insertions. -/
theorem newer_eq (h : Descending history) (he : e ∈ recent history) :
  newer history e.slug e.fetchedAt
    = (((recent history).filter fun f => e.fetchedAt < f.fetchedAt).map
        CachedEdition.slug).toFinset
  := by
  ext slug
  simp only [newer, List.mem_toFinset, List.mem_map, List.mem_filter, Bool.and_eq_true,
    decide_eq_true_eq, bne_iff_ne]
  constructor
  · rintro ⟨f, ⟨hf, hlater, -⟩, rfl⟩
    obtain ⟨g, hg, hle⟩ := h.exists_latest hf
    obtain ⟨-, hslug⟩ := latest?_eq_some hg
    use g
    rw [mem_recent, hslug]
    use ⟨hg, Nat.lt_of_lt_of_le hlater hle⟩
  · rintro ⟨f, ⟨hf, hlater⟩, rfl⟩
    use f, ⟨(recent_sublist history).subset hf, hlater, ?_⟩
    intro hslug
    have hsame : some f = some e := by
      rw [← mem_recent.mp hf, ← mem_recent.mp he, hslug]
    rw [Option.some.inj hsame] at hlater
    apply Nat.lt_irrefl _ hlater

theorem card_newer (h : Descending history) (he : e ∈ recent history) :
  (newer history e.slug e.fetchedAt).card
    = ((recent history).filter fun f => e.fetchedAt < f.fetchedAt).length
  := by
  have hnodup : (((recent history).filter fun f => e.fetchedAt < f.fetchedAt).map
      CachedEdition.slug).Nodup :=
    List.Nodup.sublist (List.filter_sublist.map _) (nodup_recent history)
  rw [newer_eq h he, List.toFinset_card_of_nodup hnodup, List.length_map]

/-! ### Keeping the most recent -/

/-- Puts an edition into a cache in which there is room, in the place of its older self. -/
def put (c : EditionCache) (e : CachedEdition) : EditionCache :=
  { c with editions := (c.remove e.slug).editions ++ [e] }

theorem insert_eq_put (c : EditionCache) (slug : String) (hadiths : List Hadith) (now : Instant) :
  c.insert slug hadiths now
    = (if c.capacity ≤ c.editions.length && (c.find? slug).isNone then c.makeRoom now else c).put
        ⟨slug, hadiths, now⟩
  := rfl

/-- An edition that is put into the cache comes before all others. -/
theorem put_isPrefix (h : c.editions.reverse <+: recent history) (e : CachedEdition) :
  (c.put e).editions.reverse <+: recent (e :: history)
  := by
  rw [put, List.reverse_append, List.reverse_singleton, List.singleton_append, recent, remove,
    ← List.filter_reverse]
  apply (List.prefix_cons_inj e).mpr (h.filter _)

theorem length_put_of_absent (h : c.find? e.slug = none) :
  (c.put e).editions.length = c.editions.length + 1
  := by
  rw [put, List.length_append, List.length_singleton, remove_of_absent h]

theorem length_put_of_present (h : c.Distinct) (hold : (c.find? e.slug).isSome) :
  (c.put e).editions.length = c.editions.length
  := by
  rw [put, List.length_append, List.length_singleton, h.length_remove hold]

/-- After an edition has been put in it is the latest. -/
theorem forall_le_of_later (h : ∀ f ∈ history, f.fetchedAt < e.fetchedAt) :
  ∀ f ∈ e :: history, f.fetchedAt ≤ e.fetchedAt
  := by
  intro f hf
  rcases List.mem_cons.mp hf with rfl | hf
  · apply Nat.le_refl
  · apply Nat.le_of_lt (h f hf)

theorem mem_of_oldest? {editions : List CachedEdition} (h : oldest? editions = some e) :
  e ∈ editions
  := by
  induction editions with
  | nil => cases h
  | cons f rest ih =>
    rw [oldest?] at h
    split at h
    · rw [Option.some.inj h]
      apply List.mem_cons_self
    · rename_i g hrest
      split at h
      · rw [Option.some.inj h]
        apply List.mem_cons_self
      · rw [← Option.some.inj h] at ih ⊢
        apply List.mem_cons_of_mem f (ih hrest)

/-- The cache holds the most recent insertions of a history: as many as it may, or else all that
have not expired as of an instant. -/
structure Keeps (history : List CachedEdition) (last : Instant) (c : EditionCache) : Prop where
  descending : Descending history
  le_last : ∀ e ∈ history, e.fetchedAt ≤ last
  newest : c.editions.reverse <+: recent history
  length_le : c.editions.length ≤ max 1 c.capacity
  expired : c.editions.length < max 1 c.capacity →
    ∀ e ∈ recent history, e ∉ c.editions → hasExpired c.lifetime e.fetchedAt last = true

namespace Keeps

theorem of_nil (h : c.editions = []) :
  c.Keeps [] 0
  where
    descending := List.Pairwise.nil
    le_last := by simp
    newest := by rw [h]; apply List.prefix_rfl
    length_le := by rw [h]; apply Nat.zero_le
    expired := by simp [recent]

theorem later (h : c.Keeps history last) (hle : last ≤ now) :
  c.Keeps history now
  := { h with
    le_last := fun e he => Nat.le_trans (h.le_last e he) hle
    expired := fun hroom e he hmissing => hasExpired_mono hle (h.expired hroom e he hmissing) }

theorem descending_recent (h : c.Keeps history last) :
  Descending (recent history)
  := h.descending.sublist (recent_sublist history)

theorem distinct (h : c.Keeps history last) :
  c.Distinct
  := by
  have hnodup := List.Nodup.sublist (h.newest.sublist.map CachedEdition.slug) (nodup_recent history)
  rwa [List.map_reverse, List.nodup_reverse] at hnodup

theorem mem_recent (h : c.Keeps history last) (he : e ∈ c.editions) :
  e ∈ recent history
  := h.newest.subset (List.mem_reverse.mpr he)

/-- The editions stand in the order in which they were put into the cache. -/
theorem ascending (h : c.Keeps history last) :
  c.editions.Pairwise fun e f => e.fetchedAt < f.fetchedAt
  := List.pairwise_reverse.mp (h.descending_recent.sublist h.newest.sublist)

/-- What is not in the cache any more is older than everything in it. -/
theorem lt_of_not_mem (h : c.Keeps history last) (he : e ∈ recent history) (hmissing : e ∉ c.editions)
    (hf : f ∈ c.editions) :
  e.fetchedAt < f.fetchedAt
  := by
  obtain ⟨rest, hrest⟩ := h.newest
  have hsplit := h.descending_recent
  rw [← hrest] at he hsplit
  rcases List.mem_append.mp he with he | he
  · cases hmissing (List.mem_reverse.mp he)
  · apply (List.pairwise_append.mp hsplit).2.2 f (List.mem_reverse.mpr hf) e he

theorem get (h : c.Keeps history last) (slug : String) (now : Instant) :
  (c.get slug now).2.Keeps history last
  where
    descending := h.descending
    le_last := h.le_last
    newest := by rw [get_editions]; apply h.newest
    length_le := by
      rw [get_editions, (SameLimits.get c slug now).capacity_eq]
      apply h.length_le
    expired := by
      have hlimits := SameLimits.get c slug now
      rw [get_editions, hlimits.capacity_eq, hlimits.lifetime_eq]
      apply h.expired

/-- A sweep drops the oldest editions only. -/
theorem prune_isPrefix (h : c.Keeps history last) (now : Instant) :
  (c.prune now).editions.reverse <+: c.editions.reverse
  := by
  rw [EditionCache.prune, ← List.filter_reverse]
  apply filter_isPrefix
  apply (h.descending_recent.sublist h.newest.sublist).imp
  intro e f hlater hfresh
  simp only [isFresh, hasExpired, Bool.not_eq_true', decide_eq_false_iff_not, Nat.not_lt]
    at hfresh ⊢
  apply Nat.le_trans (Nat.sub_le_sub_left (Nat.le_of_lt hlater) now) hfresh

/-- What was older than something that has expired has expired. -/
theorem prune (h : c.Keeps history last) (hle : last ≤ now) :
  (c.prune now).Keeps history now
  where
    descending := h.descending
    le_last := (h.later hle).le_last
    newest := (h.prune_isPrefix now).trans h.newest
    length_le := Nat.le_trans (prune_sublist c now).length_le h.length_le
    expired := by
      intro hroom e he hdropped
      by_cases hmem : e ∈ c.editions
      · by_contra hfresh
        have hkept : c.isFresh now e = true := by
          rw [isFresh, Bool.not_eq_true']
          exact Bool.eq_false_iff.mpr hfresh
        apply hdropped (List.mem_filter.mpr ⟨hmem, hkept⟩)
      · by_cases hfull : c.editions.length < max 1 c.capacity
        · apply (h.later hle).expired hfull e he hmem
        · have hshorter : (c.prune now).editions.length < c.editions.length :=
            Nat.lt_of_lt_of_le hroom (Nat.not_lt.mp hfull)
          obtain ⟨f, hf, hstale⟩ := List.length_filter_lt_length_iff_exists.mp hshorter
          have hlt := h.lt_of_not_mem he hmem hf
          have hf' : hasExpired c.lifetime f.fetchedAt now = true := by simpa [isFresh] using hstale
          rw [hasExpired_iff_add_lt] at hf' ⊢
          exact Nat.lt_trans (Nat.add_lt_add_right hlt _) hf'

/-- An edition can be put where there is room for one more or in the place of its older self. -/
theorem put (h : c.Keeps history last) (hle : last ≤ e.fetchedAt)
    (hlater : ∀ f ∈ history, f.fetchedAt < e.fetchedAt)
    (hroom : c.editions.length < max 1 c.capacity ∨ (c.find? e.slug).isSome) :
  (c.put e).Keeps (e :: history) e.fetchedAt
  := by
  have hlength : (c.put e).editions.length = c.editions.length ∧ (c.find? e.slug).isSome ∨
      (c.put e).editions.length = c.editions.length + 1 ∧ c.editions.length < max 1 c.capacity := by
    cases hfind : c.find? e.slug with
    | some f =>
      left
      rw [length_put_of_present h.distinct (by rw [hfind]; rfl)]
      use rfl
      rfl
    | none =>
      right
      rw [hfind] at hroom
      rw [length_put_of_absent hfind]
      use rfl, hroom.resolve_right (by simp)
  have hlength_le := h.length_le
  constructor
  · apply List.pairwise_cons.mpr ⟨hlater, h.descending⟩
  · apply forall_le_of_later hlater
  · apply put_isPrefix h.newest
  · change _ ≤ max 1 c.capacity
    omega
  · intro hfree f hf hmissing
    change _ < max 1 c.capacity at hfree
    rw [recent, List.mem_cons, List.mem_filter, bne_iff_ne] at hf
    rw [EditionCache.put, List.mem_append, List.mem_singleton, not_or] at hmissing
    obtain ⟨hgone, hne⟩ := hmissing
    obtain ⟨hf, hslug⟩ := hf.resolve_left hne
    have hnot : f ∉ c.editions := fun hmem => hgone (mem_remove hmem hslug)
    apply (h.later hle).expired (by omega) f hf hnot

/-- The first edition is the oldest. -/
theorem oldest?_eq (h : c.Keeps history last) {rest : List CachedEdition}
    (heq : c.editions = e :: rest) :
  oldest? c.editions = some e
  := by
  have hfirst := (List.pairwise_cons.mp (heq ▸ h.ascending)).1
  rw [heq, oldest?]
  cases hrest : oldest? rest with
  | none => rfl
  | some f => exact if_pos (Nat.le_of_lt (hfirst f (mem_of_oldest? hrest)))

/-- The oldest edition is the only one that is dropped under its identifier. -/
theorem remove_oldest (h : c.Keeps history last) {rest : List CachedEdition}
    (heq : c.editions = e :: rest) :
  (c.remove e.slug).editions = rest
  := by
  have hdistinct := h.distinct
  rw [Distinct, heq, List.map_cons, List.nodup_cons] at hdistinct
  rw [remove, heq, List.filter_cons_of_neg (by simp)]
  apply List.filter_eq_self.mpr
  intro f hf
  rw [bne_iff_ne]
  intro hslug
  apply hdistinct.1 (hslug ▸ List.mem_map_of_mem hf)

/-- In a full cache an edition with a new identifier takes the place of the oldest one. -/
theorem replace (h : c.Keeps history last) {oldest : CachedEdition} {rest : List CachedEdition}
    (heq : c.editions = oldest :: rest) (hlater : ∀ f ∈ history, f.fetchedAt < e.fetchedAt)
    (hfull : c.capacity ≤ c.editions.length) (hnew : c.find? e.slug = none) :
  ((c.remove oldest.slug).put e).Keeps (e :: history) e.fetchedAt
  := by
  have hrest := h.remove_oldest heq
  have hnew' : (c.remove oldest.slug).find? e.slug = none :=
    find?_eq_none_of_sublist (remove_sublist c oldest.slug) hnew
  have hlength : ((c.remove oldest.slug).put e).editions.length = c.editions.length := by
    rw [length_put_of_absent hnew', hrest, heq, List.length_cons]
  constructor
  · apply List.pairwise_cons.mpr ⟨hlater, h.descending⟩
  · apply forall_le_of_later hlater
  · apply put_isPrefix
    rw [hrest]
    apply List.IsPrefix.trans _ h.newest
    rw [heq, List.reverse_cons]
    apply List.prefix_append
  · rw [hlength]
    apply h.length_le
  · intro hroom
    rw [hlength] at hroom
    change _ < max 1 c.capacity at hroom
    rw [heq, List.length_cons] at hfull hroom
    omega

/-- When an insertion makes room, what has expired goes first, and then the oldest edition. -/
theorem makeRoom_put (h : c.Keeps history last) (hle : last ≤ e.fetchedAt)
    (hlater : ∀ f ∈ history, f.fetchedAt < e.fetchedAt) (hnew : c.find? e.slug = none) :
  ((c.makeRoom e.fetchedAt).put e).Keeps (e :: history) e.fetchedAt
  := by
  have hpruned := h.prune hle
  have hnew' : (c.prune e.fetchedAt).find? e.slug = none :=
    find?_eq_none_of_sublist (prune_sublist c e.fetchedAt) hnew
  rw [makeRoom]
  split
  · rename_i hfree
    apply hpruned.put (Nat.le_refl _) hlater
    left
    apply Nat.lt_of_lt_of_le hfree (Nat.le_max_right 1 _)
  · rename_i hfull
    cases hkept : (c.prune e.fetchedAt).editions with
    | nil =>
      apply hpruned.put (Nat.le_refl _) hlater
      left
      rw [hkept]
      apply Nat.lt_of_lt_of_le Nat.zero_lt_one (Nat.le_max_left 1 _)
    | cons oldest rest =>
      rw [← hkept, hpruned.oldest?_eq hkept]
      apply hpruned.replace hkept hlater (Nat.not_lt.mp hfull) hnew'

/-- An insertion that comes after all others. -/
theorem insert (h : c.Keeps history last) (slug : String) (hadiths : List Hadith)
    (hle : last ≤ now) (hlater : ∀ f ∈ history, f.fetchedAt < now) :
  (c.insert slug hadiths now).Keeps (⟨slug, hadiths, now⟩ :: history) now
  := by
  rw [insert_eq_put]
  split
  · rename_i hfull
    rw [Bool.and_eq_true, Option.isNone_iff_eq_none] at hfull
    exact h.makeRoom_put (e := ⟨slug, hadiths, now⟩) hle hlater hfull.2
  · rename_i hroom
    apply h.put (e := ⟨slug, hadiths, now⟩) hle hlater
    rw [Bool.and_eq_true, decide_eq_true_iff, not_and_or, Nat.not_le, Bool.not_eq_true,
      Option.isNone_eq_false_iff] at hroom
    apply hroom.imp_left
    intro hfree
    apply Nat.lt_of_lt_of_le hfree (Nat.le_max_right 1 _)

theorem insertions_concat (events : List Event) (e : Event) :
  insertions (events ++ [e]) = e.inserted?.toList ++ insertions events
  := by
  rw [insertions, insertions, List.filterMap_append, List.reverse_append]
  congr 1
  cases e with
  | insert slug hadiths now => rfl
  | get slug now => rfl
  | prune now => rfl

/-- A run of events in their order, with no two insertions at the same time. -/
theorem run (lifetime : Duration) (capacity : Nat) (events : List Event)
    (hordered : events.Pairwise fun e f => e.instant ≤ f.instant)
    (hapart : (insertions events).Pairwise fun e f => e.fetchedAt ≠ f.fetchedAt)
    (hlast : ∀ e ∈ events, e.instant ≤ last) :
  ((EditionCache.empty lifetime capacity).run events).Keeps (insertions events) last
  := by
  induction events using List.reverseRecOn generalizing last with
  | nil => exact (Keeps.of_nil (c := EditionCache.empty lifetime capacity) rfl).later (Nat.zero_le last)
  | append_singleton events e ih =>
    obtain ⟨hordered, -, hbefore⟩ := List.pairwise_append.mp hordered
    have hlast : e.instant ≤ last := hlast e (by simp)
    have happend : ∀ c : EditionCache, c.run (events ++ [e]) = (c.run events).after e :=
      fun c => List.foldl_concat _ _ _ _
    rw [insertions_concat] at hapart ⊢
    have hold := ih hordered (hapart.sublist (List.sublist_append_right _ _))
      (fun f hf => hbefore f hf e List.mem_cons_self)
    rw [happend]
    apply later _ hlast
    cases e with
    | insert slug hadiths now =>
      apply hold.insert slug hadiths (Nat.le_refl now)
      intro f hf
      apply Nat.lt_of_le_of_ne (hold.le_last f hf)
      apply Ne.symm (List.rel_of_pairwise_cons hapart hf)
    | get slug now => apply hold.get slug now
    | prune now => apply hold.prune (Nat.le_refl now)

/-- A lookup finds an edition exactly if it was the last one to be inserted under its identifier,
has not expired and is among as many of the most recent as the cache may hold. -/
theorem peek_eq_some_iff (h : c.Keeps history last) (hle : last ≤ now) :
  c.peek slug now = some hadiths ↔
    ∃ e, latest? history slug = some e ∧ e.hadiths = hadiths ∧ now - e.fetchedAt ≤ c.lifetime ∧
      (newer history slug e.fetchedAt).card < max 1 c.capacity
  := by
  constructor
  · intro hpeek
    obtain ⟨e, hfound, rfl⟩ := Option.map_eq_some_iff.mp hpeek
    obtain ⟨hfind, hfresh⟩ := Option.filter_eq_some_iff.mp hfound
    obtain ⟨hmem, rfl⟩ := mem_of_find? hfind
    have hrecent := h.mem_recent hmem
    use e, EditionCache.mem_recent.mp hrecent, rfl
    constructor
    · simpa [isFresh, hasExpired] using hfresh
    · rw [card_newer h.descending hrecent]
      have hamong := (h.descending_recent.mem_prefix_iff h.newest hrecent).mp
        (List.mem_reverse.mpr hmem)
      rw [List.length_reverse] at hamong
      apply Nat.lt_of_lt_of_le hamong h.length_le
  · rintro ⟨e, hlatest, rfl, hfresh, hamong⟩
    obtain ⟨-, rfl⟩ := latest?_eq_some hlatest
    have hrecent := EditionCache.mem_recent.mpr hlatest
    rw [card_newer h.descending hrecent] at hamong
    have hmem : e ∈ c.editions := by
      by_contra hmissing
      by_cases hroom : c.editions.length < max 1 c.capacity
      · have hexpired := hasExpired_mono hle (h.expired hroom e hrecent hmissing)
        rw [hasExpired_iff] at hexpired
        apply Nat.not_lt.mpr hfresh hexpired
      · apply hmissing
        rw [← List.mem_reverse, h.descending_recent.mem_prefix_iff h.newest hrecent,
          List.length_reverse]
        apply Nat.lt_of_lt_of_le hamong (Nat.not_lt.mp hroom)
    apply h.distinct.peek hmem hfresh

end Keeps

/-! ### The bound -/

theorem eq_nil_of_oldest? {editions : List CachedEdition} (h : oldest? editions = none) :
  editions = []
  := by
  cases editions with
  | nil => rfl
  | cons e rest =>
    rw [oldest?] at h
    split at h
    · cases h
    · split at h
      · cases h
      · cases h

/-- After room has been made there is room for one more. -/
theorem length_makeRoom_lt (h : c.editions.length ≤ max 1 c.capacity) (now : Instant) :
  (c.makeRoom now).editions.length < max 1 c.capacity
  := by
  rw [makeRoom]
  split
  · rename_i hfree
    apply Nat.lt_of_lt_of_le hfree (Nat.le_max_right 1 _)
  · cases holdest : oldest? (c.prune now).editions with
    | none =>
      rw [eq_nil_of_oldest? holdest]
      apply Nat.lt_of_lt_of_le Nat.zero_lt_one (Nat.le_max_left 1 _)
    | some e =>
      have hfound := find?_isSome (mem_of_oldest? holdest)
      apply Nat.lt_of_lt_of_le (length_remove_lt hfound)
      apply Nat.le_trans (prune_sublist c now).length_le h

theorem length_insert_le (h : c.editions.length ≤ max 1 c.capacity) (slug : String)
    (hadiths : List Hadith) (now : Instant) :
  (c.insert slug hadiths now).editions.length ≤ max 1 c.capacity
  := by
  rw [insert_eq_put, put, List.length_append, List.length_singleton]
  split
  · apply Nat.le_trans _ (length_makeRoom_lt h now)
    apply Nat.succ_le_succ (remove_sublist _ slug).length_le
  · rename_i hroom
    rw [Bool.and_eq_true, decide_eq_true_iff, not_and_or, Nat.not_le, Bool.not_eq_true,
      Option.isNone_eq_false_iff] at hroom
    rcases hroom with hfree | hold
    · apply Nat.le_trans _ (Nat.le_max_right 1 _)
      apply Nat.lt_of_le_of_lt (remove_sublist c slug).length_le hfree
    · apply Nat.le_trans (length_remove_lt hold) h

/-- No run of events makes the cache hold more than it may. -/
theorem length_run_le (h : c.editions.length ≤ max 1 c.capacity) (events : List Event) :
  (c.run events).editions.length ≤ max 1 c.capacity
  := by
  induction events generalizing c with
  | nil => apply h
  | cons e events ih =>
    have hafter : (c.after e).editions.length ≤ max 1 c.capacity := by
      cases e with
      | insert slug hadiths now => apply length_insert_le h
      | get slug now =>
        rw [after, get_editions]
        apply h
      | prune now => apply Nat.le_trans (prune_sublist c now).length_le h
    rw [← (SameLimits.after c e).capacity_eq] at hafter ⊢
    apply ih hafter

/-- In every run of events, even if the clock goes backwards, the cache holds no more editions than
it may, but always may hold one.  When the events come in their order and no two insertions at the
same time, a lookup after them finds an edition exactly if it was the last one that was inserted
under its identifier, has not expired, and there have been fewer other identifiers since than
editions that the cache may hold. -/
theorem holds_most_recent (lifetime : Duration) (capacity : Nat) (events : List Event) :
  let c := (empty lifetime capacity).run events
  c.stats.editions ≤ max 1 capacity ∧
    ((events.Pairwise fun e f => e.instant ≤ f.instant) →
      ((insertions events).Pairwise fun e f => e.fetchedAt ≠ f.fetchedAt) →
      ∀ slug now hadiths, (∀ e ∈ events, e.instant ≤ now) →
        ((c.get slug now).1 = some hadiths ↔
          ∃ e, latest? (insertions events) slug = some e ∧ e.hadiths = hadiths ∧
            now - e.fetchedAt ≤ lifetime ∧
            (newer (insertions events) slug e.fetchedAt).card < max 1 capacity))
  := by
  intro c
  constructor
  · exact length_run_le (c := empty lifetime capacity) (Nat.zero_le _) events
  · intro hordered hapart slug now hadiths hnow
    have hkeeps := Keeps.run lifetime capacity events hordered hapart hnow
    have hlimits := SameLimits.run (empty lifetime capacity) events
    rw [get_fst, hkeeps.peek_eq_some_iff (Nat.le_refl now), hlimits.lifetime_eq,
      hlimits.capacity_eq]
    rfl

/-- Three editions in a cache for two, of which the first is inserted again, with a hadith, before
the third one comes. -/
def overtaking : List Event :=
  [.insert "a" [] 0, .insert "b" [] 1, .get "a" 2,
   .insert "a" [⟨"1", "", "", "", "", none, none, none, ""⟩] 3, .prune 4, .insert "c" [] 5]

theorem holds_most_recent_overtaking :
  let c := (empty 10 2).run overtaking
  (overtaking.Pairwise fun e f => e.instant ≤ f.instant) ∧
    ((insertions overtaking).Pairwise fun e f => e.fetchedAt ≠ f.fetchedAt) ∧
    c.stats.editions ≤ 2 ∧
    (c.get "a" 13).1 = some [⟨"1", "", "", "", "", none, none, none, ""⟩] ∧
    (∀ hadiths, (c.get "a" 14).1 ≠ some hadiths) ∧
    (∀ hadiths, (c.get "b" 6).1 ≠ some hadiths)
  := by
  intro c
  have hordered : overtaking.Pairwise fun e f => e.instant ≤ f.instant := by decide
  have hapart : (insertions overtaking).Pairwise fun e f => e.fetchedAt ≠ f.fetchedAt := by decide
  obtain ⟨hle, hget⟩ := holds_most_recent 10 2 overtaking
  have hfinds := hget hordered hapart
  use hordered, hapart, hle
  constructor
  · apply (hfinds "a" 13 _ (by decide)).mpr
    use ⟨"a", [⟨"1", "", "", "", "", none, none, none, ""⟩], 3⟩, by decide, rfl, by decide
    decide
  · constructor
    · intro hadiths h
      obtain ⟨e, he, -, hfresh, -⟩ := (hfinds "a" 14 hadiths (by decide)).mp h
      cases he
      revert hfresh
      decide
    · intro hadiths h
      obtain ⟨e, he, -, -, hamong⟩ := (hfinds "b" 6 hadiths (by decide)).mp h
      cases he
      revert hamong
      decide

end HadithService.EditionCache
