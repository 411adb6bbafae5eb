/-!
# Ranges of code points

A property of characters is a list of disjoint ranges of code points, in increasing order.
`CodeRanges.has` looks a code point up in such a list; it stops at the first range that does
not end before the code point, so characters with small code points are found at once.  Since the
ranges are in order a code point that lies in any of them is found (`CodeRanges.has_iff`).
-/

namespace HadithService

/-- Whether ranges lie at or after a code point, each after the end of the one before it. -/
def CodeRanges.inOrder : Nat → List (Nat × Nat) → Bool
  | _, [] => true
  | least, (first, last) :: rest => least ≤ first && first ≤ last && inOrder (last + 1) rest

/-- Disjoint ranges of code points in increasing order, each with its first and its last. -/
structure CodeRanges where
  ranges : List (Nat × Nat)
  ordered : CodeRanges.inOrder 0 ranges = true := by decide +kernel

namespace CodeRanges

variable {p q : CodeRanges} {ranges : List (Nat × Nat)} {least n : Nat} {c : Char}

/-- Whether a code point lies in one of the ranges. -/
def within (n : Nat) : List (Nat × Nat) → Bool
  | [] => false
  | (first, last) :: rest => if n ≤ last then first ≤ n else within n rest

/-- Whether a character has the property. -/
def has (p : CodeRanges) (c : Char) : Bool :=
  within c.toNat p.ranges

theorem le_of_inOrder (h : inOrder least ranges = true) :
  ∀ r ∈ ranges, least ≤ r.1
  := by
  induction ranges generalizing least with
  | nil =>
    rintro r ⟨⟩
  | cons r ranges ih =>
    simp only [inOrder, Bool.and_eq_true, decide_eq_true_iff] at h
    intro r' hr'
    rcases List.mem_cons.mp hr' with rfl | hr'
    · apply h.1.1
    · have hle := ih h.2 r' hr'
      omega

theorem within_iff (h : inOrder least ranges = true) :
  within n ranges = true ↔ ∃ r ∈ ranges, r.1 ≤ n ∧ n ≤ r.2
  := by
  induction ranges generalizing least with
  | nil => simp [within]
  | cons r ranges ih =>
    simp only [inOrder, Bool.and_eq_true, decide_eq_true_iff] at h
    simp only [within, List.mem_cons, exists_eq_or_imp]
    split
    · rename_i hle
      rw [decide_eq_true_iff]
      constructor
      · intro hfirst
        left
        exact ⟨hfirst, hle⟩
      · rintro (⟨hfirst, -⟩ | ⟨r', hr', hfirst, -⟩)
        · apply hfirst
        · have hlater := le_of_inOrder h.2 r' hr'
          omega
    · rename_i hlt
      rw [ih h.2]
      constructor
      · intro hlater
        right
        apply hlater
      · rintro (⟨-, hle⟩ | hlater)
        · cases hlt hle
        · apply hlater

/-- A character has a property exactly if its code point lies in one of the ranges. -/
theorem has_iff :
  p.has c = true ↔ ∃ r ∈ p.ranges, r.1 ≤ c.toNat ∧ c.toNat ≤ r.2
  := within_iff p.ordered

/-- No range of a class meets a range of another. -/
def Apart (p q : CodeRanges) : Prop :=
  ∀ r ∈ p.ranges, ∀ r' ∈ q.ranges, r.2 < r'.1 ∨ r'.2 < r.1

instance (p q : CodeRanges) : Decidable (p.Apart q) :=
  inferInstanceAs (Decidable (∀ r ∈ p.ranges, ∀ r' ∈ q.ranges, r.2 < r'.1 ∨ r'.2 < r.1))

theorem Apart.has_eq_false (h : p.Apart q) (hc : p.has c = true) :
  q.has c = false
  := by
  apply Bool.eq_false_iff.mpr
  intro hq
  obtain ⟨r, hr, hfirst, hlast⟩ := has_iff.mp hc
  obtain ⟨r', hr', hfirst', hlast'⟩ := has_iff.mp hq
  have hapart := h r hr r' hr'
  omega

end CodeRanges

end HadithService
