import HadithService.Search.Arrangement
import Mathlib.Data.Finset.Card
import Mathlib.Data.List.Nodup

/-!
# What is kept of hadiths, and in which order

Of all hadiths with a text exactly one is kept, so there are as many results as there are different
texts (`Search.length_arrange`).  The one that is kept is the first, and those that are kept are
ordered by their numbers, equal numbers as they came; no other list is like that
(`Search.isArrangement_iff_eq_arrange`).
-/

namespace HadithService.Search

variable {seen : List String} {hadiths results : List Hadith} {h k : Hadith} {key : String}

/-- The texts of the hadiths that are kept are those that were not seen before. -/
theorem mem_keys_unseen :
  key ∈ (unseen seen hadiths).map textKey ↔ key ∈ hadiths.map textKey ∧ key ∉ seen
  := by
  induction hadiths generalizing seen with
  | nil => simp [unseen]
  | cons h hadiths ih =>
    rw [unseen]
    split
    · rename_i hseen
      have hmem : textKey h ∈ seen := List.contains_iff_mem.mp hseen
      rw [ih, List.map_cons, List.mem_cons]
      constructor
      · rintro ⟨hkey, hnew⟩
        use .inr hkey
      · rintro ⟨rfl | hkey, hnew⟩
        · cases hnew hmem
        · use hkey
    · rename_i hseen
      have hnew : textKey h ∉ seen := fun hmem => hseen (List.contains_iff_mem.mpr hmem)
      rw [List.map_cons, List.mem_cons, ih, List.map_cons, List.mem_cons, List.mem_cons]
      constructor
      · rintro (rfl | ⟨hkey, hother⟩)
        · use .inl rfl
        · use .inr hkey
          intro hmem
          apply hother (.inr hmem)
      · rintro ⟨rfl | hkey, hmem⟩
        · left
          rfl
        · by_cases heq : key = textKey h
          · left
            apply heq
          · right
            use hkey
            rintro (hself | hseen)
            · apply heq hself
            · apply hmem hseen

/-- No two hadiths that are kept have the same text. -/
theorem nodup_keys_unseen (seen : List String) (hadiths : List Hadith) :
  ((unseen seen hadiths).map textKey).Nodup
  := by
  induction hadiths generalizing seen with
  | nil => apply List.nodup_nil
  | cons h hadiths ih =>
    rw [unseen]
    split
    · apply ih
    · rw [List.map_cons, List.nodup_cons]
      constructor
      · intro hmem
        apply (mem_keys_unseen.mp hmem).2 List.mem_cons_self
      · apply ih

theorem nodup_keys_arrange (hadiths : List Hadith) :
  ((arrange hadiths).map fun h => Text.trim h.arabic).Nodup
  := by
  change ((arrange hadiths).map textKey).Nodup
  rw [arrange, ((List.mergeSort_perm _ _).map textKey).nodup_iff]
  apply nodup_keys_unseen

/-- There are as many results as there are different texts. -/
theorem length_arrange (hadiths : List Hadith) :
  (arrange hadiths).length = (hadiths.map fun h => Text.trim h.arabic).toFinset.card
  := by
  change _ = (hadiths.map textKey).toFinset.card
  have hkeys : ((unseen [] hadiths).map textKey).toFinset = (hadiths.map textKey).toFinset := by
    apply Finset.ext
    intro key
    rw [List.mem_toFinset, List.mem_toFinset, mem_keys_unseen]
    simp
  rw [arrange, List.length_mergeSort, ← List.length_map textKey, ← hkeys,
    List.toFinset_card_of_nodup (nodup_keys_unseen [] hadiths)]

/-! ### The first of every text -/

/-- Of the hadiths with a text that was not seen before only the first is kept. -/
theorem filter_unseen (key : String) (seen : List String) (hadiths : List Hadith) :
  ((unseen seen hadiths).filter fun h => textKey h == key)
    = if key ∈ seen then [] else (hadiths.find? fun h => textKey h == key).toList
  := by
  induction hadiths generalizing seen with
  | nil => simp [unseen]
  | cons h hadiths ih =>
    by_cases hkey : textKey h = key
    · by_cases hseen : key ∈ seen
      · simp [unseen, ih, hkey, hseen]
      · simp [unseen, ih, hkey, hseen]
    · by_cases hseen : textKey h ∈ seen
      · simp [unseen, ih, hkey, hseen]
      · simp [unseen, ih, hkey, hseen, Ne.symm hkey]

theorem filter_arrange (key : String) (hadiths : List Hadith) :
  ((arrange hadiths).filter fun h => textKey h == key)
    = (hadiths.find? fun h => textKey h == key).toList
  := by
  have hperm := (List.mergeSort_perm (unseen [] hadiths) numberLe).filter fun h => textKey h == key
  rw [← arrange, filter_unseen, if_neg List.not_mem_nil] at hperm
  cases hfirst : hadiths.find? fun h => textKey h == key with
  | none =>
    rw [hfirst] at hperm
    apply hperm.eq_nil
  | some h =>
    rw [hfirst] at hperm
    apply List.perm_singleton.mp hperm

/-! ### The order of numbers -/

theorem numberLe_iff :
  numberLe h k = true ↔ leadingNumber h.number ≤ leadingNumber k.number
  := decide_eq_true_iff

theorem numberLe_trans (h k l : Hadith) (hhk : numberLe h k = true) (hkl : numberLe k l = true) :
  numberLe h l = true
  := by
  rw [numberLe_iff] at hhk hkl ⊢
  apply Nat.le_trans hhk hkl

theorem numberLe_total (h k : Hadith) :
  (numberLe h k || numberLe k h) = true
  := by
  rw [Bool.or_eq_true, numberLe_iff, numberLe_iff]
  apply Nat.le_total

theorem pairwise_arrange (hadiths : List Hadith) :
  (arrange hadiths).Pairwise fun h k => numberLe h k = true
  := List.pairwise_mergeSort numberLe_trans numberLe_total _

/-- Hadiths with different numbers are ordered by them, however they came. -/
theorem arrange_eq_of_perm (hkept : (unseen [] hadiths).Perm results)
    (hordered : results.Pairwise fun h k => leadingNumber h.number < leadingNumber k.number) :
  arrange hadiths = results
  := by
  have hle : results.Pairwise fun h k => numberLe h k = true :=
    hordered.imp fun hlt => numberLe_iff.mpr (Nat.le_of_lt hlt)
  have hperm : (arrange hadiths).Perm results := (List.mergeSort_perm _ _).trans hkept
  have hnumbers : (results.map fun h => leadingNumber h.number).Nodup :=
    List.pairwise_map.mpr (hordered.imp Nat.ne_of_lt)
  apply hperm.eq_of_pairwise _ (pairwise_arrange hadiths) hle
  intro h k hh hk hhk hkh
  apply List.inj_on_of_nodup_map hnumbers (hperm.subset hh) hk
  apply Nat.le_antisymm (numberLe_iff.mp hhk) (numberLe_iff.mp hkh)

/-- Hadiths with the same number are left in their order. -/
theorem filter_number_arrange (n : Nat) (hadiths : List Hadith) :
  ((arrange hadiths).filter fun h => leadingNumber h.number == n)
    = (unseen [] hadiths).filter fun h => leadingNumber h.number == n
  := by
  have hperm := (List.mergeSort_perm (unseen [] hadiths) numberLe).filter
    fun h => leadingNumber h.number == n
  have hequal : ((unseen [] hadiths).filter fun h => leadingNumber h.number == n).Pairwise
      fun h k => numberLe h k = true := by
    apply List.pairwise_of_forall_mem_list
    intro h hh k hk
    obtain ⟨-, hh⟩ := List.mem_filter.mp hh
    obtain ⟨-, hk⟩ := List.mem_filter.mp hk
    rw [numberLe_iff, beq_iff_eq.mp hh, beq_iff_eq.mp hk]
  have hsub := List.sublist_mergeSort numberLe_trans numberLe_total hequal List.filter_sublist
  have hkept := hsub.filter fun h => leadingNumber h.number == n
  rw [List.filter_filter, ← arrange] at hkept
  simp only [Bool.and_self] at hkept
  apply (hkept.eq_of_length hperm.length_eq.symm).symm

/-! ### The order in which they came -/

/-- The place of the first hadith that has the text of a hadith. -/
def place (hadiths : List Hadith) (h : Hadith) : Nat :=
  (hadiths.map fun k => Text.trim k.arabic).idxOf (Text.trim h.arabic)

theorem place_cons_of_ne (hne : textKey h ≠ textKey k) :
  place (k :: hadiths) h = place hadiths h + 1
  := List.idxOf_cons_ne _ (Ne.symm hne)

theorem key_not_mem_of_mem_unseen (hh : h ∈ unseen seen hadiths) :
  textKey h ∉ seen
  := (mem_keys_unseen.mp (List.mem_map_of_mem hh)).2

/-- What is kept stays in its order. -/
theorem pairwise_place_unseen (seen : List String) (hadiths : List Hadith) :
  (unseen seen hadiths).Pairwise fun h k => place hadiths h < place hadiths k
  := by
  induction hadiths generalizing seen with
  | nil => apply List.Pairwise.nil
  | cons l hadiths ih =>
    -- none of the hadiths that are kept later has the text of the first one
    have hlater : ∀ {seen}, textKey l ∈ seen →
        (unseen seen hadiths).Pairwise fun h k => place (l :: hadiths) h < place (l :: hadiths) k := by
      intro seen hl
      apply (ih seen).imp_of_mem
      intro h k hh hk hlt
      have hne : ∀ {h}, h ∈ unseen seen hadiths → textKey h ≠ textKey l :=
        fun hh heq => key_not_mem_of_mem_unseen hh (heq ▸ hl)
      rw [place_cons_of_ne (hne hh), place_cons_of_ne (hne hk)]
      apply Nat.succ_lt_succ hlt
    rw [unseen]
    split
    · rename_i hseen
      apply hlater (List.contains_iff_mem.mp hseen)
    · rw [List.pairwise_cons]
      constructor
      · intro h hh
        have hne : textKey h ≠ textKey l :=
          fun heq => key_not_mem_of_mem_unseen hh (heq ▸ List.mem_cons_self)
        rw [place_cons_of_ne hne, place, List.map_cons, List.idxOf_cons_self]
        apply Nat.succ_pos
      · apply hlater List.mem_cons_self

/-! ### Arrangements -/

/-- Results that are an arrangement of hadiths: of every text the first hadith and no other, by
number, and those with the same number in the order in which they came. -/
structure IsArrangement (hadiths results : List Hadith) : Prop where
  firsts : ∀ text, (results.filter fun h => Text.trim h.arabic == text)
    = (hadiths.find? fun h => Text.trim h.arabic == text).toList
  ordered : results.Pairwise fun h k => leadingNumber h.number ≤ leadingNumber k.number
  stable : results.Pairwise fun h k =>
    leadingNumber h.number = leadingNumber k.number → place hadiths h < place hadiths k

theorem isArrangement_arrange (hadiths : List Hadith) :
  IsArrangement hadiths (arrange hadiths)
  := by
  constructor
  case firsts =>
    intro key
    apply filter_arrange
  case ordered => exact (pairwise_arrange hadiths).imp numberLe_iff.mp
  case stable =>
    rw [List.pairwise_iff_forall_sublist]
    intro h k hpair hnumber
    have hsame := hpair.filter fun l => leadingNumber l.number == leadingNumber k.number
    rw [filter_number_arrange] at hsame
    simp only [List.filter_cons, hnumber, beq_self_eq_true, if_true, List.filter_nil] at hsame
    have hplaces := (pairwise_place_unseen [] hadiths).sublist (hsame.trans List.filter_sublist)
    apply List.pairwise_pair.mp hplaces

theorem IsArrangement.mem_iff (hresults : IsArrangement hadiths results) :
  h ∈ results ↔ (hadiths.find? fun k => Text.trim k.arabic == Text.trim h.arabic) = some h
  := by
  have hkept : h ∈ results ↔
      h ∈ results.filter fun k => Text.trim k.arabic == Text.trim h.arabic := by
    simp [List.mem_filter]
  rw [hkept, hresults.firsts, Option.mem_toList]

/-- A hadith stands before another: it has a smaller number, or the same number and a text that
came earlier. -/
def Before (hadiths : List Hadith) (h k : Hadith) : Prop :=
  leadingNumber h.number < leadingNumber k.number ∨
    leadingNumber h.number = leadingNumber k.number ∧ place hadiths h < place hadiths k

theorem Before.not_symm (hbefore : Before hadiths h k) :
  ¬ Before hadiths k h
  := by
  unfold Before at *
  omega

theorem IsArrangement.pairwise (hresults : IsArrangement hadiths results) :
  results.Pairwise (Before hadiths)
  := by
  apply (hresults.ordered.and hresults.stable).imp
  rintro h k ⟨hle, hplace⟩
  rcases Nat.lt_or_eq_of_le hle with hlt | heq
  · left
    apply hlt
  · right
    use heq, hplace heq

theorem IsArrangement.nodup (hresults : IsArrangement hadiths results) :
  results.Nodup
  := by
  apply hresults.pairwise.imp
  rintro h k hbefore rfl
  apply hbefore.not_symm hbefore

theorem IsArrangement.unique {results' : List Hadith} (hresults : IsArrangement hadiths results)
    (hresults' : IsArrangement hadiths results') :
  results = results'
  := by
  have hperm : results.Perm results' := by
    rw [List.perm_ext_iff_of_nodup hresults.nodup hresults'.nodup]
    intro h
    rw [hresults.mem_iff, hresults'.mem_iff]
  apply List.Perm.eq_of_pairwise _ hresults.pairwise hresults'.pairwise hperm
  intro h k _ _ hhk hkh
  cases hhk.not_symm hkh

/-- Where no text comes twice nothing is left out. -/
theorem unseen_of_nodup (hnodup : (hadiths.map textKey).Nodup)
    (hnew : ∀ h ∈ hadiths, textKey h ∉ seen) :
  unseen seen hadiths = hadiths
  := by
  induction hadiths generalizing seen with
  | nil => rfl
  | cons h hadiths ih =>
    rw [List.map_cons, List.nodup_cons] at hnodup
    have hh : ¬ seen.contains (textKey h) = true := by
      rw [List.contains_iff_mem]
      apply hnew h List.mem_cons_self
    rw [unseen, if_neg hh, ih hnodup.2]
    intro k hk
    rw [List.mem_cons, not_or]
    constructor
    · intro heq
      apply hnodup.1
      rw [← heq]
      apply List.mem_map_of_mem hk
    · apply hnew k (List.mem_cons_of_mem h hk)

/-- Results are an arrangement of hadiths exactly if they are what `arrange` gives: of every text
the first hadith and no other, by number, and those with the same number in the order in which they
came.  Arranging them again changes nothing. -/
theorem isArrangement_iff_eq_arrange (hadiths : List Hadith) :
  (∀ results, IsArrangement hadiths results ↔ results = arrange hadiths) ∧
    arrange (arrange hadiths) = arrange hadiths
  := by
  constructor
  · intro results
    constructor
    · intro hresults
      apply hresults.unique (isArrangement_arrange hadiths)
    · rintro rfl
      apply isArrangement_arrange
  · have hall : unseen [] (arrange hadiths) = arrange hadiths :=
      unseen_of_nodup (nodup_keys_arrange hadiths) fun h _ => List.not_mem_nil
    rw [arrange, hall]
    apply List.mergeSort_of_pairwise (pairwise_arrange hadiths)

end HadithService.Search
