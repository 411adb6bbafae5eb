import HadithService.Relevance.Pattern
import Mathlib.Data.List.Forall2
import Mathlib.Tactic.Use

/-!
# What patterns accept

A pattern accepts the texts that it describes, and no others (`Pattern.accepts_iff`): what remains
of a pattern after a character describes what may follow the character.  The patterns that are put
together from others describe what their names say.
-/

namespace HadithService.Pattern

variable {p q : Pattern} {ps : List Pattern} {k : CharClass} {c : Char} {s : List Char}

/-! ### Texts that a pattern describes -/

@[simp]
theorem not_matches_nothing :
  ¬ nothing.Matches s
  := nofun

@[simp]
theorem matches_empty_iff :
  empty.Matches s ↔ s = []
  := by
  constructor
  · rintro ⟨⟩
    rfl
  · rintro rfl
    exact .empty

theorem matches_one_iff :
  (one k).Matches s ↔ ∃ c, k.has c = true ∧ s = [c]
  := by
  constructor
  · rintro ⟨⟩
    rename_i c h
    use c, h
  · rintro ⟨c, h, rfl⟩
    exact .one h

theorem matches_seq_iff :
  (seq p q).Matches s ↔ ∃ left right, p.Matches left ∧ q.Matches right ∧ s = left ++ right
  := by
  constructor
  · rintro ⟨⟩
    rename_i left right hp hq
    use left, right, hp, hq
  · rintro ⟨left, right, hp, hq, rfl⟩
    exact .seq hp hq

@[simp]
theorem matches_alt_iff :
  (alt p q).Matches s ↔ p.Matches s ∨ q.Matches s
  := by
  constructor
  · rintro ⟨⟩
    · left
      assumption
    · right
      assumption
  · rintro (h | h)
    · exact .left h
    · exact .right h

/-- What is described by a repeated pattern starts with a text that is not empty and described by
the pattern. -/
theorem Matches.exists_of_star (h : (star p).Matches (c :: s)) :
  ∃ left right, p.Matches (c :: left) ∧ (star p).Matches right ∧ s = left ++ right
  := by
  generalize hp : star p = repeated at h
  generalize hs : c :: s = cs at h
  induction h generalizing s with
  | @again p' left right hleft hright _ ih =>
    cases hp
    cases left with
    | nil => apply ih rfl hs
    | cons d left =>
      rw [List.cons_append, List.cons.injEq] at hs
      obtain ⟨rfl, rfl⟩ := hs
      use left, right, hleft, hright
  | done => cases hs
  | _ => cases hp

/-! ### One character after another -/

theorem isNullable_iff :
  p.isNullable = true ↔ p.Matches []
  := by
  induction p with
  | nothing => simp [isNullable]
  | empty => simp [isNullable]
  | one k => simp [isNullable, matches_one_iff]
  | seq p q ihp ihq =>
    rw [isNullable, Bool.and_eq_true, ihp, ihq, matches_seq_iff]
    constructor
    · rintro ⟨hp, hq⟩
      use [], [], hp, hq
      rfl
    · rintro ⟨left, right, hp, hq, h⟩
      obtain ⟨rfl, rfl⟩ := List.append_eq_nil_iff.mp h.symm
      use hp, hq
  | alt p q ihp ihq => rw [isNullable, Bool.or_eq_true, ihp, ihq, matches_alt_iff]
  | star p => simp [isNullable, Matches.done]

theorem matches_followedBy_iff :
  (followedBy p q).Matches s ↔ (seq p q).Matches s
  := by
  rw [followedBy.eq_def, matches_seq_iff]
  split
  · simp
  · simp
  · simp
  · rw [matches_seq_iff]

theorem matches_either_iff :
  (either p q).Matches s ↔ p.Matches s ∨ q.Matches s
  := by
  rw [either.eq_def]
  split
  · simp
  · simp
  · split
    case isTrue heq =>
      subst heq
      rw [or_self]
    case isFalse => rw [matches_alt_iff]

/-- A sequence takes a character off its first part, or off the second one if the first may be
empty. -/
theorem matches_seq_cons_iff :
  (seq p q).Matches (c :: s) ↔
    (∃ left right, p.Matches (c :: left) ∧ q.Matches right ∧ s = left ++ right) ∨
      p.isNullable = true ∧ q.Matches (c :: s)
  := by
  rw [matches_seq_iff, isNullable_iff]
  constructor
  · rintro ⟨left, right, hp, hq, h⟩
    cases left with
    | nil =>
      rw [List.nil_append] at h
      right
      use hp, h ▸ hq
    | cons d left =>
      rw [List.cons_append, List.cons.injEq] at h
      obtain ⟨rfl, rfl⟩ := h
      left
      use left, right, hp, hq
  · rintro (⟨left, right, hp, hq, rfl⟩ | ⟨hp, hq⟩)
    · use c :: left, right, hp, hq
      rfl
    · use [], c :: s, hp, hq
      rfl

theorem matches_after_iff :
  (p.after c).Matches s ↔ p.Matches (c :: s)
  := by
  induction p generalizing s with
  | nothing => simp [after]
  | empty => simp [after]
  | one k =>
    rw [after, matches_one_iff]
    split
    case isTrue h => simp [h]
    case isFalse h => simp [h]
  | seq p q ihp ihq =>
    rw [after, matches_seq_cons_iff]
    split
    case isTrue h =>
      rw [matches_either_iff, matches_followedBy_iff, matches_seq_iff]
      simp only [ihp, ihq, h, true_and]
    case isFalse h =>
      rw [matches_followedBy_iff, matches_seq_iff]
      simp only [ihp, h, Bool.false_eq_true, false_and, or_false]
  | alt p q ihp ihq => rw [after, matches_either_iff, ihp, ihq, matches_alt_iff]
  | star p ih =>
    rw [after, matches_followedBy_iff, matches_seq_iff]
    simp only [ih]
    constructor
    · rintro ⟨left, right, hp, hstar, rfl⟩
      exact .again hp hstar
    · apply Matches.exists_of_star

/-- A pattern accepts what it describes. -/
theorem accepts_iff :
  p.accepts s = true ↔ p.Matches s
  := by
  induction s generalizing p with
  | nil => apply isNullable_iff
  | cons c s ih => rw [accepts, ih, matches_after_iff]

/-! ### Patterns put together from others -/

theorem matches_star_one_iff :
  (star (one k)).Matches s ↔ s.all k.has
  := by
  induction s with
  | nil => simp [Matches.done]
  | cons c s ih =>
    rw [List.all_cons, Bool.and_eq_true, ← ih]
    constructor
    · intro h
      obtain ⟨left, right, hone, hstar, rfl⟩ := h.exists_of_star
      obtain ⟨d, hd, hcons⟩ := matches_one_iff.mp hone
      obtain ⟨rfl, rfl⟩ := List.cons.inj hcons
      use hd, hstar
    · rintro ⟨hc, h⟩
      exact .again (.one hc) h

theorem matches_many_one_iff :
  (many (one k)).Matches s ↔ s ≠ [] ∧ s.all k.has
  := by
  rw [many, matches_seq_iff]
  constructor
  · rintro ⟨left, right, hone, hstar, rfl⟩
    obtain ⟨c, hc, rfl⟩ := matches_one_iff.mp hone
    rw [matches_star_one_iff] at hstar
    simp [hc, hstar]
  · rintro ⟨hne, hall⟩
    obtain ⟨c, rest, rfl⟩ := List.exists_cons_of_ne_nil hne
    rw [List.all_cons, Bool.and_eq_true] at hall
    use [c], rest, .one hall.1, matches_star_one_iff.mpr hall.2
    rfl

theorem matches_anyOf_iff :
  (anyOf ps).Matches s ↔ ∃ p ∈ ps, p.Matches s
  := by
  induction ps with
  | nil => simp [anyOf]
  | cons p ps ih =>
    rw [anyOf, List.foldr_cons, matches_alt_iff, ← anyOf, ih]
    simp

@[simp]
theorem matches_maybe_iff :
  (maybe p).Matches s ↔ p.Matches s ∨ s = []
  := by
  rw [maybe, matches_alt_iff, matches_empty_iff]

theorem matches_atStart_iff :
  (atStart p).Matches s ↔ ∃ start rest, p.Matches start ∧ s = start ++ rest
  := by
  have hany : ∀ rest : List Char, (star (one .any)).Matches rest :=
    fun rest => matches_star_one_iff.mpr (List.all_eq_true.mpr fun _ _ => rfl)
  rw [atStart, matches_seq_iff]
  constructor
  · rintro ⟨start, rest, hstart, -, h⟩
    use start, rest, hstart, h
  · rintro ⟨start, rest, hstart, h⟩
    use start, rest, hstart, hany rest, h

theorem matches_inOrder_singleton_iff :
  (inOrder [p]).Matches s ↔ p.Matches s
  := by
  rw [inOrder, List.foldr_cons, List.foldr_nil, matches_seq_iff]
  simp

theorem matches_inOrder_cons_iff :
  (inOrder (p :: q :: ps)).Matches s ↔
    ∃ left right, p.Matches left ∧ (inOrder (q :: ps)).Matches right ∧ s = left ++ right
  := matches_seq_iff

theorem Matches.before {left right : List Char} (hleft : p.Matches left)
    (hright : (inOrder ps).Matches right) :
  (inOrder (p :: ps)).Matches (left ++ right)
  := .seq hleft hright

/-! ### Words -/

/-- A character stands for a letter: it is the letter itself, its capital, or one of the two signs
that fold to a letter. -/
inductive StandsFor : Char → Char → Prop where
  | self (c : Char) : StandsFor c c
  | capital {x c : Char} (hx : 'A' ≤ x ∧ x ≤ 'Z') (h : c.toNat = x.toNat + 32) : StandsFor x c
  | longS : StandsFor 'ſ' 's'
  | kelvin : StandsFor '\u212a' 'k'

/-- A text spells a word, in whatever case. -/
def Spells (cs : List Char) (w : String) : Prop :=
  List.Forall₂ StandsFor cs w.toList

/-- The characters of words in patterns: small letters and spaces. -/
def isPlain (c : Char) : Bool :=
  'a' ≤ c && c ≤ 'z' || c == ' '

theorem le_iff_toNat_le {a b : Char} :
  a ≤ b ↔ a.toNat ≤ b.toNat
  := by
  rw [Char.le_def, UInt32.le_iff_toNat_le, Char.toNat_val, Char.toNat_val]

theorem foldedLetter_of_capital {x : Char} (hx : 'A' ≤ x ∧ x ≤ 'Z') :
  foldedLetter x = Char.ofNat (x.toNat + 32)
  := by
  simp [foldedLetter, hx]

/-- A capital folds to the letter that comes 32 places after it. -/
theorem toNat_foldedLetter {x : Char} (hx : 'A' ≤ x ∧ x ≤ 'Z') :
  (foldedLetter x).toNat = x.toNat + 32
  := by
  have hlast : x.toNat ≤ 90 := le_iff_toNat_le.mp hx.2
  have hvalid : (x.toNat + 32).isValidChar := by
    left
    omega
  rw [foldedLetter_of_capital hx, Char.ofNat, dif_pos hvalid]
  rfl

/-- All other characters fold to themselves. -/
theorem foldedLetter_of_other {x : Char} (hcapital : ¬ ('A' ≤ x ∧ x ≤ 'Z')) (hlong : x ≠ 'ſ')
    (hkelvin : x ≠ '\u212a') :
  foldedLetter x = x
  := by
  rw [foldedLetter, if_neg (by simpa using hcapital), if_neg (by simpa using hlong),
    if_neg (by simpa using hkelvin)]

theorem foldedLetter_of_plain (hc : isPlain c = true) :
  foldedLetter c = c
  := by
  rw [isPlain, Bool.or_eq_true, Bool.and_eq_true, decide_eq_true_iff, decide_eq_true_iff,
    beq_iff_eq] at hc
  rcases hc with ⟨hfirst, hlast⟩ | rfl
  · rw [le_iff_toNat_le] at hfirst hlast
    apply foldedLetter_of_other
    · rintro ⟨-, hcapital⟩
      have hlt := Nat.le_trans hfirst (le_iff_toNat_le.mp hcapital)
      revert hlt
      decide
    · rintro rfl
      revert hlast
      decide
    · rintro rfl
      revert hlast
      decide
  · rfl

/-- What folds to a letter stands for it. -/
theorem foldedLetter_eq_iff {x : Char} (hc : isPlain c = true) :
  foldedLetter x = c ↔ StandsFor x c
  := by
  constructor
  · rintro rfl
    by_cases hcapital : 'A' ≤ x ∧ x ≤ 'Z'
    · exact .capital hcapital (toNat_foldedLetter hcapital)
    by_cases hlong : x = 'ſ'
    · subst hlong
      exact .longS
    by_cases hkelvin : x = '\u212a'
    · subst hkelvin
      exact .kelvin
    rw [foldedLetter_of_other hcapital hlong hkelvin]
    exact .self x
  · rintro (_ | ⟨hx, h⟩ | _ | _)
    · apply foldedLetter_of_plain hc
    · rw [← Char.toNat_inj, toNat_foldedLetter hx, h]
    · rfl
    · rfl

theorem matches_letter_iff (hc : isPlain c = true) :
  (one (.letter c)).Matches s ↔ ∃ x, StandsFor x c ∧ s = [x]
  := by
  simp only [matches_one_iff, CharClass.has, beq_iff_eq, foldedLetter_eq_iff hc]

theorem matches_word_iff {w : String} (hw : w.toList.all isPlain) :
  (word w).Matches s ↔ Spells s w
  := by
  rw [word, Spells]
  generalize w.toList = letters at hw
  induction letters generalizing s with
  | nil => simp
  | cons c letters ih =>
    rw [List.all_cons, Bool.and_eq_true] at hw
    rw [List.foldr_cons, matches_seq_iff, List.forall₂_cons_right_iff]
    simp only [matches_letter_iff hw.1, ih hw.2]
    constructor
    · rintro ⟨_, right, ⟨x, hx, rfl⟩, hright, rfl⟩
      use x, right, hx, hright
      rfl
    · rintro ⟨x, right, hx, hright, rfl⟩
      use [x], right, ⟨x, hx, rfl⟩, hright
      rfl

end HadithService.Pattern
