import HadithService.Proofs.Text.Blank
import HadithService.Text.Sanitize

/-!
# What is left of sanitized texts

A sanitized text is no longer than its limit and contains no NUL character.  The cut and the
removal of NUL characters come after the trimming, so a blank can come to stand at an end of the
text.  `Text.isNormal_sanitize_iff` says exactly when that happens; a text that is sanitized twice
is always in normal form.
-/

namespace HadithService.Text

variable {limit : Nat} {cs : List Char} {s : String}

theorem length_sanitizeChars_le (limit : Nat) (cs : List Char) :
  (sanitizeChars limit cs).length ≤ limit
  := by
  calc (sanitizeChars limit cs).length
    _ ≤ ((trimChars cs).take limit).length := List.length_filter_le _ _
    _ ≤ limit := List.length_take_le _ _

theorem length_sanitize_le (limit : Nat) (s : String) :
  (sanitize limit s).length ≤ limit
  := by
  rw [sanitize, String.length_ofList]
  apply length_sanitizeChars_le

theorem nul_not_mem_sanitize (limit : Nat) (s : String) :
  '\x00' ∉ (sanitize limit s).toList
  := by
  rw [sanitize, String.toList_ofList, sanitizeChars]
  intro hmem
  simpa using (List.mem_filter.mp hmem).2

/-- A text that is short enough and has no NUL character is only trimmed. -/
theorem sanitize_eq_trim (hnul : '\x00' ∉ s.toList) (hlength : s.length ≤ limit) :
  sanitize limit s = trim s
  := by
  have hpart := trimChars_isInfix s.toList
  have hshort : (trimChars s.toList).length ≤ limit := by
    apply hpart.length_le.trans
    rw [String.length_toList]
    apply hlength
  rw [sanitize, trim, sanitizeChars, List.take_of_length_le hshort, List.filter_eq_self.mpr]
  intro c hc
  rw [bne_iff_ne]
  rintro rfl
  apply hnul (hpart.subset hc)

/-! ### Normal forms -/

/-- A text in normal form: one without NUL characters and without blanks at either end, so that it
is empty or has a character that shows, no longer than the limit.  It does not change when it is
sanitized. -/
structure IsNormal (limit : Nat) (s : String) : Prop where
  no_nul : '\x00' ∉ s.toList
  length_le : s.length ≤ limit
  trimmed : IsTrimmed s.toList
  empty_or_not_blank : s = "" ∨ isBlankText s = false
  sanitize_eq : sanitize limit s = s

theorem empty_or_not_blank_of_trim (h : trim s = s) :
  s = "" ∨ isBlankText s = false
  := by
  cases hblank : isBlankText s with
  | false =>
    right
    rfl
  | true =>
    left
    rw [isBlankText_iff, h] at hblank
    apply hblank

/-- A text without NUL characters that is short enough is in normal form when it is trimmed. -/
theorem isNormal_iff (hnul : '\x00' ∉ s.toList) (hlength : s.length ≤ limit) :
  IsNormal limit s ↔ IsTrimmed s.toList
  := by
  constructor
  · apply IsNormal.trimmed
  · intro htrimmed
    have htrim : trim s = s := by rw [trim, isTrimmed_iff.mp htrimmed, String.ofList_toList]
    use hnul, hlength, htrimmed, empty_or_not_blank_of_trim htrim
    rw [sanitize_eq_trim hnul hlength, htrim]

theorem isNormal_trim (hnul : '\x00' ∉ s.toList) (hlength : s.length ≤ limit) :
  IsNormal limit (trim s)
  := by
  have hpart := trimChars_isInfix s.toList
  apply (isNormal_iff _ _).mpr
  · rw [trim, String.toList_ofList]
    apply isTrimmed_trimChars
  · rw [trim, String.toList_ofList]
    intro hmem
    apply hnul (hpart.subset hmem)
  · rw [trim, String.length_ofList]
    apply hpart.length_le.trans
    rw [String.length_toList]
    apply hlength

/-! ### Blanks that come to an end of the text -/

/-- The characters of a text that are not cut off, NUL characters among them. -/
def uncut (limit : Nat) (s : String) : List Char :=
  (trimChars s.toList).take limit

theorem toList_sanitize (limit : Nat) (s : String) :
  (sanitize limit s).toList = (uncut limit s).filter fun c => c != '\x00'
  := String.toList_ofList

/-- The first or the last character is a blank, NUL characters aside. -/
inductive ShowsBlank (cs : List Char) : Prop where
  | first {nuls rest : List Char} {c : Char} (h : cs = nuls ++ c :: rest)
    (hnuls : nuls.all fun d => d == '\x00') (hc : isBlank c = true)
  | last {rest nuls : List Char} {c : Char} (h : cs = rest ++ c :: nuls)
    (hnuls : nuls.all fun d => d == '\x00') (hc : isBlank c = true)

theorem ne_nul_of_blank {c : Char} (hc : isBlank c = true) :
  c ≠ '\x00'
  := by
  rintro rfl
  cases hc

/-- The first character that is not NUL. -/
theorem mem_head?_filter_iff {c : Char} :
  c ∈ (cs.filter fun c => c != '\x00').head? ↔
    c ≠ '\x00' ∧ ∃ nuls rest, cs = nuls ++ c :: rest ∧ nuls.all fun d => d == '\x00'
  := by
  rw [List.head?_filter, Option.mem_def, List.find?_eq_some_iff_append]
  simp

/-- The last character that is not NUL. -/
theorem mem_getLast?_filter_iff {c : Char} :
  c ∈ (cs.filter fun c => c != '\x00').getLast? ↔
    c ≠ '\x00' ∧ ∃ rest nuls, cs = rest ++ c :: nuls ∧ nuls.all fun d => d == '\x00'
  := by
  rw [← List.head?_reverse, ← List.filter_reverse, mem_head?_filter_iff]
  apply and_congr_right
  intro _
  constructor
  · rintro ⟨nuls, rest, h, hnuls⟩
    use rest.reverse, nuls.reverse
    constructor
    · rw [← List.reverse_inj, h]
      simp
    · rw [List.all_reverse]
      apply hnuls
  · rintro ⟨rest, nuls, rfl, hnuls⟩
    use nuls.reverse, rest.reverse
    constructor
    · simp
    · rw [List.all_reverse]
      apply hnuls

theorem isTrimmed_filter_iff :
  IsTrimmed (cs.filter fun c => c != '\x00') ↔ ¬ ShowsBlank cs
  := by
  constructor
  · rintro ⟨hhead, hlast⟩ (⟨h, hnuls, hc⟩ | ⟨h, hnuls, hc⟩)
    · have hnot := hhead _ (mem_head?_filter_iff.mpr ⟨ne_nul_of_blank hc, _, _, h, hnuls⟩)
      rw [hc] at hnot
      cases hnot
    · have hnot := hlast _ (mem_getLast?_filter_iff.mpr ⟨ne_nul_of_blank hc, _, _, h, hnuls⟩)
      rw [hc] at hnot
      cases hnot
  · intro hshows
    constructor
    · intro c hc
      obtain ⟨-, nuls, rest, h, hnuls⟩ := mem_head?_filter_iff.mp hc
      rw [Bool.eq_false_iff]
      intro hblank
      apply hshows (.first h hnuls hblank)
    · intro c hc
      obtain ⟨-, rest, nuls, h, hnuls⟩ := mem_getLast?_filter_iff.mp hc
      rw [Bool.eq_false_iff]
      intro hblank
      apply hshows (.last h hnuls hblank)

/-- A sanitized text that is not empty is blank when blanks and NUL characters are all that is not
cut off. -/
theorem isBlankText_sanitize_iff :
  sanitize limit s ≠ "" ∧ isBlankText (sanitize limit s) = true ↔
    ((uncut limit s).all fun c => c == '\x00' || isBlank c) ∧ (uncut limit s).any isBlank
  := by
  rw [isBlankText, Ne, ← String.toList_eq_nil_iff, toList_sanitize, List.all_filter,
    List.filter_eq_nil_iff]
  constructor
  · rintro ⟨hshown, hall⟩
    obtain ⟨c, hc, hnul⟩ : ∃ c ∈ uncut limit s, c ≠ '\x00' := by simpa using hshown
    have hmem := List.all_eq_true.mp hall
    constructor
    · rw [List.all_eq_true]
      intro d hd
      simpa using hmem d hd
    · rw [List.any_eq_true]
      use c, hc
      simpa [hnul] using hmem c hc
  · rintro ⟨hall, hany⟩
    obtain ⟨c, hc, hblank⟩ := List.any_eq_true.mp hany
    constructor
    · intro hnone
      apply hnone c hc
      rw [bne_iff_ne]
      apply ne_nul_of_blank hblank
    · rw [List.all_eq_true] at hall ⊢
      intro d hd
      simpa using hall d hd

/-- A sanitized text has no NUL character and is not longer than its limit.  It is in normal form
unless, of what is not cut off, the first or the last character is a blank, NUL characters aside;
and it is blank without being empty when blanks and NUL characters are all that is not cut off.
Sanitizing it again trims it, after which it is in normal form. -/
theorem isNormal_sanitize_iff (limit : Nat) (s : String) :
  '\x00' ∉ (sanitize limit s).toList ∧ (sanitize limit s).length ≤ limit ∧
    (IsNormal limit (sanitize limit s) ↔ ¬ ShowsBlank (uncut limit s)) ∧
    (sanitize limit s ≠ "" ∧ isBlankText (sanitize limit s) = true ↔
      ((uncut limit s).all fun c => c == '\x00' || isBlank c) ∧ (uncut limit s).any isBlank) ∧
    sanitize limit (sanitize limit s) = trim (sanitize limit s) ∧
    IsNormal limit (sanitize limit (sanitize limit s))
  := by
  have hnul := nul_not_mem_sanitize limit s
  have hlength := length_sanitize_le limit s
  have hagain := sanitize_eq_trim hnul hlength
  use hnul, hlength
  constructor
  · rw [isNormal_iff hnul hlength, toList_sanitize]
    apply isTrimmed_filter_iff
  use isBlankText_sanitize_iff, hagain
  rw [hagain]
  apply isNormal_trim hnul hlength

/-- NUL characters around a blank hide it when a text is trimmed, and a cut can leave one. -/
theorem not_isNormal_of_hidden :
  sanitize 500 "\x00 \x00" = " " ∧ ¬ IsNormal 500 (sanitize 500 "\x00 \x00") ∧
    sanitize 3 "ab c" = "ab " ∧ ¬ IsNormal 3 (sanitize 3 "ab c")
  := by
  have hnuls : sanitize 500 "\x00 \x00" = " " := by decide +kernel
  have hcut : sanitize 3 "ab c" = "ab " := by decide +kernel
  rw [hnuls, hcut]
  have hblank : ¬ IsNormal 500 " " := by
    intro h
    have hlast := h.trimmed.2 ' ' (by decide +kernel)
    cases hlast
  have hspace : ¬ IsNormal 3 "ab " := by
    intro h
    have hlast := h.trimmed.2 ' ' (by decide +kernel)
    cases hlast
  use rfl, hblank, rfl, hspace

end HadithService.Text
