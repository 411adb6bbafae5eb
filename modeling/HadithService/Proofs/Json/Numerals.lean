import HadithService.Json.Numeral
import Mathlib.Data.List.TakeWhile
import Mathlib.Tactic.Use

/-!
# Numerals of whole numbers

A whole number is written as its digits.  They are a numeral (`Numeral.ofChars?_digits`), and it is
held as the number itself when 64 bits suffice (`Numeral.number?_ofNat`).
-/

namespace HadithService

namespace Decimal

theorem isDigit_of_mem_digits {n : Nat} {c : Char} (hc : c ∈ digits n) :
  c.isDigit = true
  := Nat.isDigit_of_mem_toDigits (by decide) (by decide) hc

/-- The digits of a number do not start with a needless zero. -/
theorem digits_cases (n : Nat) :
  digits n = ['0'] ∨ ∃ d rest, digits n = d :: rest ∧ d ≠ '0'
  := by
  induction n using Nat.strongRecOn with
  | ind n ih =>
    by_cases hone : n < 10
    · have hdigit : digits n = [n.digitChar] := Nat.toDigits_of_lt_base hone
      by_cases hzero : n = 0
      · left
        rw [hdigit, hzero]
        rfl
      · right
        exact ⟨n.digitChar, [], hdigit, fun h => hzero (Nat.digitChar_eq_zero.mp h)⟩
    · have hle : 10 ≤ n := Nat.le_of_not_lt hone
      have hdigits : digits n = digits (n / 10) ++ [(n % 10).digitChar] :=
        Nat.toDigits_of_base_le (by decide) hle
      right
      rcases ih (n / 10) (by omega) with hzero | ⟨d, rest, hfirst, hd⟩
      · -- the digits before the last one are those of a number that is not zero
        have hvalue : Nat.ofDigitChars 10 (digits (n / 10)) 0 = n / 10 :=
          Nat.ofDigitChars_ten_toDigits
        rw [hzero] at hvalue
        have : n / 10 = 0 := hvalue.symm
        omega
      · exact ⟨d, rest ++ [(n % 10).digitChar], by rw [hdigits, hfirst, List.cons_append], hd⟩

end Decimal

namespace Numeral

/-- The numeral that a whole number is written as. -/
def ofNat (n : Nat) : Numeral :=
  ⟨false, Decimal.digits n, [], none⟩

theorem digitSpan_digits (n : Nat) :
  digitSpan (Decimal.digits n) = (Decimal.digits n, [])
  := by
  have hall : (Decimal.digits n).all Char.isDigit :=
    List.all_eq_true.mpr fun c hc => Decimal.isDigit_of_mem_digits hc
  rw [digitSpan, Prod.mk.injEq]
  constructor
  · apply List.takeWhile_eq_self_iff.mpr (List.all_eq_true.mp hall)
  · apply List.dropWhile_eq_nil_iff.mpr (List.all_eq_true.mp hall)

/-- The digits of a number are the numeral it is written as. -/
theorem ofChars?_digits (n : Nat) :
  ofChars? (Decimal.digits n) = some (ofNat n)
  := by
  have hspan := digitSpan_digits n
  have hdigit : ∀ c ∈ Decimal.digits n, c.isDigit = true := fun c => Decimal.isDigit_of_mem_digits
  rw [ofNat]
  rcases Decimal.digits_cases n with hzero | ⟨d, rest, hfirst, hd⟩
  · rw [hzero]
    rfl
  · rw [hfirst] at hspan hdigit ⊢
    have hsign : d ≠ '-' := by
      rintro rfl
      cases hdigit '-' List.mem_cons_self
    simp [ofChars?, hspan, hsign, hd, exponentOf?]

/-! ### The number that is held -/

theorem le_ofDigitChars (n : Nat) (ds : List Char) :
  n ≤ Nat.ofDigitChars 10 ds n
  := by
  rw [Nat.ofDigitChars_eq_ofDigitChars_zero]
  have hscale : 1 * n ≤ 10 ^ ds.length * n :=
    Nat.mul_le_mul_right n (Nat.pow_pos (by decide))
  omega

/-- All digits are gathered when 64 bits suffice for the number they are. -/
theorem gather_eq {n : Nat} {ds : List Char} (hfits : Nat.ofDigitChars 10 ds n < UInt64.size) :
  gather n ds = (Nat.ofDigitChars 10 ds n, [])
  := by
  induction ds generalizing n with
  | nil => rfl
  | cons d ds ih =>
    rw [Nat.ofDigitChars_cons, Nat.mul_comm] at hfits ⊢
    have hnext := Nat.lt_of_le_of_lt (le_ofDigitChars _ ds) hfits
    rw [gather, if_pos hnext, ih hfits]

/-- A whole number of 64 bits is held as itself. -/
theorem number?_ofNat {n : Nat} (hfits : n < UInt64.size) :
  (ofNat n).number? = some (.natural n)
  := by
  have hvalue : Nat.ofDigitChars 10 (Decimal.digits n) 0 = n := Nat.ofDigitChars_ten_toDigits
  have hgather : gather 0 (Decimal.digits n) = (n, []) := by
    rw [gather_eq (hvalue.symm ▸ hfits), hvalue]
  simp [number?, ofNat, hgather]

end Numeral

end HadithService
