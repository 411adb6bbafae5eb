import HadithService.Proofs.Search.Arrangement
import Mathlib.Data.Nat.Digits.Defs

/-!
# Results in the order of their numbers

A number that is too large for 64 bits counts as zero when hadiths are arranged
(`Search.leadingNumber_eq`).  The results whose numbers are not too large are in order, and all of
them are exactly if every hadith with a number that is too large came after those with a smaller
one, and each of these has a number that is zero or too large as well
(`Search.inOrder_arrange_iff`).
-/

namespace HadithService.Search

variable {hadiths : List Hadith} {h k : Hadith} {s : String}

/-- The digits at the start of a trimmed text. -/
def leadingDigits (s : String) : List Char :=
  (Text.trimChars s.toList).takeWhile Char.isDigit

/-- What a digit stands for. -/
def digitValue (c : Char) : Nat :=
  c.toNat - '0'.toNat

/-- The number that the digits at the start of a text write, however many they are; zero if there
are none. -/
def writtenNumber (s : String) : Nat :=
  Nat.ofDigits 10 ((leadingDigits s).reverse.map digitValue)

/-- A number that 64 bits do not suffice for. -/
def IsTooLarge (n : Nat) : Prop :=
  UInt64.size ≤ n

instance (n : Nat) : Decidable (IsTooLarge n) :=
  Nat.decLe _ _

/-- No hadith stands before one whose number is smaller. -/
def InOrder (results : List Hadith) : Prop :=
  results.Pairwise fun h k => writtenNumber h.number ≤ writtenNumber k.number

instance (results : List Hadith) : Decidable (InOrder results) :=
  List.instDecidablePairwise results

/-! ### Numbers that are too large -/

theorem ofDigitChars_eq_ofDigits (cs : List Char) :
  Nat.ofDigitChars 10 cs 0 = Nat.ofDigits 10 (cs.reverse.map digitValue)
  := by
  induction cs using List.reverseRecOn with
  | nil => rfl
  | append_singleton cs c ih =>
    rw [Nat.ofDigitChars_append, Nat.ofDigitChars_cons, Nat.ofDigitChars_nil, ih,
      List.reverse_append, List.reverse_singleton, List.singleton_append, List.map_cons,
      Nat.ofDigits_cons, digitValue, Nat.add_comm]

/-- A number that is too large counts as zero. -/
theorem leadingNumber_eq (s : String) :
  leadingNumber s = if IsTooLarge (writtenNumber s) then 0 else writtenNumber s
  := by
  have hwritten : Nat.ofDigitChars 10 ((Text.trimChars s.toList).takeWhile Char.isDigit) 0
      = writtenNumber s := ofDigitChars_eq_ofDigits _
  rw [leadingNumber, hwritten]
  split
  case isTrue hlt =>
    symm
    apply if_neg (Nat.not_le.mpr hlt)
  case isFalse hge =>
    symm
    apply if_pos (Nat.le_of_not_lt hge)

theorem leadingNumber_of_tooLarge (hs : IsTooLarge (writtenNumber s)) :
  leadingNumber s = 0
  := by
  rw [leadingNumber_eq, if_pos hs]

theorem leadingNumber_of_not_tooLarge (hs : ¬ IsTooLarge (writtenNumber s)) :
  leadingNumber s = writtenNumber s
  := by
  rw [leadingNumber_eq, if_neg hs]

theorem leadingNumber_eq_zero_iff :
  leadingNumber s = 0 ↔ writtenNumber s = 0 ∨ IsTooLarge (writtenNumber s)
  := by
  by_cases hs : IsTooLarge (writtenNumber s)
  · simp [leadingNumber_of_tooLarge hs, hs]
  · simp [leadingNumber_of_not_tooLarge hs, hs]

/-! ### The order of results -/

/-- Of two results one stands before the other. -/
theorem before_total (hh : h ∈ arrange hadiths) (hk : k ∈ arrange hadiths) (hne : h ≠ k) :
  Before hadiths h k ∨ Before hadiths k h
  := by
  have hbefore := (isArrangement_arrange hadiths).pairwise
  have hall := List.Pairwise.forall_of_forall_of_flip
    (R := fun h k => h = k ∨ Before hadiths h k ∨ Before hadiths k h) (l := arrange hadiths)
    (fun h _ => .inl rfl) (hbefore.imp fun hhk => .inr (.inl hhk))
    (hbefore.imp fun hhk => .inr (.inr hhk))
  apply (hall hh hk).resolve_left hne

/-- Results are in order if none of them stands before one with a smaller number. -/
theorem inOrder_iff :
  InOrder (arrange hadiths) ↔
    ∀ h ∈ arrange hadiths, ∀ k ∈ arrange hadiths,
      writtenNumber k.number < writtenNumber h.number → Before hadiths k h
  := by
  have hbefore := (isArrangement_arrange hadiths).pairwise
  constructor
  · intro horder h hh k hk hlt
    have hforward : (arrange hadiths).Pairwise fun h k =>
        Before hadiths h k → writtenNumber h.number ≤ writtenNumber k.number := by
      apply horder.imp
      intro h k hle _
      apply hle
    have hbackward : (arrange hadiths).Pairwise fun h k =>
        Before hadiths k h → writtenNumber k.number ≤ writtenNumber h.number := by
      apply hbefore.imp
      intro h k hhk hkh
      cases hhk.not_symm hkh
    have hall := List.Pairwise.forall_of_forall_of_flip (fun h _ _ => Nat.le_refl _) hforward
      hbackward
    have hne : h ≠ k := by
      rintro rfl
      apply Nat.lt_irrefl _ hlt
    rcases before_total hh hk hne with hhk | hkh
    · cases Nat.not_le.mpr hlt (hall hh hk hhk)
    · apply hkh
  · intro hsmaller
    apply hbefore.imp_of_mem
    intro h k hh hk hhk
    apply Nat.le_of_not_lt
    intro hlt
    apply hhk.not_symm (hsmaller h hh k hk hlt)

/-- A hadith whose number is not too large comes after all with smaller numbers. -/
theorem before_of_not_tooLarge (hh : ¬ IsTooLarge (writtenNumber h.number))
    (hlt : writtenNumber k.number < writtenNumber h.number) :
  Before hadiths k h
  := by
  left
  have hk : ¬ IsTooLarge (writtenNumber k.number) :=
    fun hk => hh (Nat.le_trans hk (Nat.le_of_lt hlt))
  rw [leadingNumber_of_not_tooLarge hh, leadingNumber_of_not_tooLarge hk]
  apply hlt

/-- A hadith whose number is too large comes after another one exactly if this has a number that
counts as zero and came earlier. -/
theorem before_iff_of_tooLarge (hh : IsTooLarge (writtenNumber h.number)) :
  Before hadiths k h ↔
    (writtenNumber k.number = 0 ∨ IsTooLarge (writtenNumber k.number)) ∧
      place hadiths k < place hadiths h
  := by
  rw [Before, leadingNumber_of_tooLarge hh, leadingNumber_eq_zero_iff]
  simp

/-- The results whose numbers are not too large for 64 bits are in the order of their numbers, and
all results are exactly if a hadith with a number that is too large came after those of the others
that have a smaller one, and each of these has a number that is zero or too large. -/
theorem inOrder_arrange_iff (hadiths : List Hadith) :
  InOrder ((arrange hadiths).filter fun h => ¬ IsTooLarge (writtenNumber h.number)) ∧
    (InOrder (arrange hadiths) ↔
      ∀ h ∈ arrange hadiths, IsTooLarge (writtenNumber h.number) →
        ∀ k ∈ arrange hadiths, writtenNumber k.number < writtenNumber h.number →
          (writtenNumber k.number = 0 ∨ IsTooLarge (writtenNumber k.number)) ∧
            place hadiths k < place hadiths h)
  := by
  constructor
  · have hfits := (isArrangement_arrange hadiths).ordered.filter
      fun h => ¬ IsTooLarge (writtenNumber h.number)
    apply hfits.imp_of_mem
    intro h k hh hk hle
    have hh := of_decide_eq_true (List.mem_filter.mp hh).2
    have hk := of_decide_eq_true (List.mem_filter.mp hk).2
    rw [leadingNumber_of_not_tooLarge hh, leadingNumber_of_not_tooLarge hk] at hle
    apply hle
  · rw [inOrder_iff]
    apply forall₂_congr
    intro h _
    constructor
    · intro hbefore hlarge k hk hlt
      apply (before_iff_of_tooLarge hlarge).mp (hbefore k hk hlt)
    · intro hlarge k hk hlt
      by_cases hh : IsTooLarge (writtenNumber h.number)
      · apply (before_iff_of_tooLarge hh).mpr (hlarge hh k hk hlt)
      · apply before_of_not_tooLarge hh hlt

/-- A hadith with nothing but a number and a text. -/
def numbered (number text : String) : Hadith :=
  ⟨number, "", "", "", text, none, none, none, ""⟩

/-- A number of twenty digits stands before the number seven. -/
theorem twenty_digits_before_seven :
  arrange [numbered "18446744073709551616" "first", numbered "7" "second"]
      = [numbered "18446744073709551616" "first", numbered "7" "second"] ∧
    ¬ InOrder (arrange [numbered "18446744073709551616" "first", numbered "7" "second"])
  := by
  have harrange : arrange [numbered "18446744073709551616" "first", numbered "7" "second"]
      = [numbered "18446744073709551616" "first", numbered "7" "second"] :=
    List.mergeSort_of_pairwise (by decide +kernel)
  use harrange
  rw [harrange]
  decide +kernel

end HadithService.Search
