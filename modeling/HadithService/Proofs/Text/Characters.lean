import HadithService.Text.Alphanumeric
import HadithService.Text.Fold
import HadithService.Text.Sanitize
import Mathlib.Data.List.Basic

/-!
# Classes of characters

Two classes of characters whose ranges are apart have no character in common, and characters apart
from all letters with a lower-case form are their own lower-case forms.  So blanks stand in no word,
are no diacritics and have no case, and diacritics have no case either.
-/

namespace HadithService

namespace Text

variable {p : CodeRanges} {n : Nat} {c : Char}

/-! ### Characters without a case -/

theorem lowerIn_of_outside {runs : List CaseRun} (h : ∀ r ∈ runs, n < r.first ∨ r.last < n) :
  lowerIn n runs = n
  := by
  induction runs with
  | nil => rfl
  | cons r runs ih =>
    have hr := h r List.mem_cons_self
    rw [lowerIn]
    split
    · have hfirst : ¬ r.first ≤ n := by omega
      simp [hfirst]
    · apply ih fun r hr => h r (List.mem_cons_of_mem _ hr)

/-- No range of a class meets the letters with a lower-case form, of one character or of two. -/
def IsCaseless (p : CodeRanges) : Prop :=
  ∀ r ∈ p.ranges, (r.2 < 0x130 ∨ 0x130 < r.1) ∧ ∀ run ∈ caseRuns, r.2 < run.first ∨ run.last < r.1

instance (p : CodeRanges) : Decidable (IsCaseless p) :=
  inferInstanceAs (Decidable (∀ r ∈ p.ranges, (r.2 < 0x130 ∨ 0x130 < r.1) ∧
    ∀ run ∈ caseRuns, r.2 < run.first ∨ run.last < r.1))

/-- A character without a case is its own lower-case form. -/
theorem IsCaseless.lowerChar (h : IsCaseless p) (hc : p.has c = true) :
  lowerChar c = [c]
  := by
  obtain ⟨r, hr, hfirst, hlast⟩ := CodeRanges.has_iff.mp hc
  obtain ⟨hdotted, hruns⟩ := h r hr
  have hne : ¬ c.toNat = 0x130 := by omega
  have hsame : lowerIn c.toNat caseRuns = c.toNat := by
    apply lowerIn_of_outside
    intro run hrun
    have hapart := hruns run hrun
    omega
  simp [Text.lowerChar, hne, hsame, Char.ofNat_toNat]

/-! ### Blanks -/

theorem isAlphanumeric_of_blank (hc : isBlank c = true) :
  isAlphanumeric c = false
  := by
  have hapart : whiteSpace.Apart alphabeticOrNumeric := by decide +kernel
  apply hapart.has_eq_false hc

theorem isDiacritic_of_blank (hc : isBlank c = true) :
  isDiacritic c = false
  := by
  have hapart : whiteSpace.Apart diacritics := by decide
  apply hapart.has_eq_false hc

theorem isCased_of_blank (hc : isBlank c = true) :
  isCased c = false
  := by
  have hapart : whiteSpace.Apart casedLetters := by decide +kernel
  apply hapart.has_eq_false hc

theorem isCaseIgnorable_of_blank (hc : isBlank c = true) :
  isCaseIgnorable c = false
  := by
  have hapart : whiteSpace.Apart caseIgnorable := by decide +kernel
  apply hapart.has_eq_false hc

theorem lowerChar_of_blank (hc : isBlank c = true) :
  lowerChar c = [c]
  := by
  have hcaseless : IsCaseless whiteSpace := by decide +kernel
  apply hcaseless.lowerChar hc

theorem ne_sigma_of_blank (hc : isBlank c = true) :
  c ≠ 'Σ'
  := by
  rintro rfl
  cases hc

/-! ### Diacritics -/

theorem lowerChar_of_diacritic (hc : isDiacritic c = true) :
  lowerChar c = [c]
  := by
  have hcaseless : IsCaseless diacritics := by decide +kernel
  apply hcaseless.lowerChar hc

theorem ne_sigma_of_diacritic (hc : isDiacritic c = true) :
  c ≠ 'Σ'
  := by
  rintro rfl
  cases hc

end Text

end HadithService
