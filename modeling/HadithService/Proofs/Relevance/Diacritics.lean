import HadithService.Proofs.Relevance.Fallback
import HadithService.Proofs.Text.Diacritics

/-!
# Questions and hadiths with diacritics

The gate compares texts with their diacritics, so that a question can be relevant to a hadith with
them and not without, or the other way round.  A question that is off the topic is so without its
diacritics as well (`Relevance.IsOffTopic.of_stays`), and all terms stay when the diacritics are
removed, except one that has a diacritic of its own (`Relevance.mentions_or_tanween`).  What is left
are six ways in which diacritics decide (`Relevance.isRelevant_stripDiacritics_iff`).
-/

namespace HadithService.Relevance

open Pattern (Spells StandsFor isPlain le_iff_toNat_le)
open Text (IsSteady IsSolid Stays)

variable {question hadith : String} {asked told plain plainTold cs : List Char} {c x : Char}
  {w : String}

/-! ### Key phrases -/

theorem isSteady_of_letter (hfirst : 'A'.toNat ≤ c.toNat) (hlast : c.toNat ≤ 'z'.toNat) :
  IsSteady c ∧ Text.isBlank c = false
  := by
  have hletter : (CodeRanges.mk [('A'.toNat, 'z'.toNat)]).has c = true := by
    simpa [CodeRanges.has, CodeRanges.within] using ⟨hlast, hfirst⟩
  have hapart : (CodeRanges.mk [('A'.toNat, 'z'.toNat)]).Apart Text.whiteSpace := by decide
  use Text.isSteady_of_has (by decide) rfl rfl hletter, hapart.has_eq_false hletter

/-- What stands for a letter or a space is steady, and not blank unless it is a space. -/
theorem isSteady_of_standsFor (h : StandsFor x c) (hc : isPlain c = true) :
  IsSteady x ∧ (c ≠ ' ' → Text.isBlank x = false)
  := by
  rw [isPlain, Bool.or_eq_true, Bool.and_eq_true, decide_eq_true_iff, decide_eq_true_iff,
    beq_iff_eq, le_iff_toNat_le, le_iff_toNat_le] at hc
  cases h with
  | self =>
    rcases hc with ⟨hfirst, hlast⟩ | rfl
    · obtain ⟨hsteady, hblank⟩ := isSteady_of_letter (Nat.le_trans (by decide) hfirst) hlast
      use hsteady, fun _ => hblank
    · use Text.isSteady_of_blank rfl
      intro hne
      cases hne rfl
  | capital hx _ =>
    rw [le_iff_toNat_le, le_iff_toNat_le] at hx
    obtain ⟨hsteady, hblank⟩ := isSteady_of_letter hx.1 (Nat.le_trans hx.2 (by decide))
    use hsteady, fun _ => hblank
  | longS =>
    use by decide
    intro _
    rfl
  | kelvin =>
    use by decide
    intro _
    rfl

/-- A word of letters and spaces that neither starts nor ends with a space. -/
def IsPhrase (w : String) : Prop :=
  w.toList ≠ [] ∧ w.toList.all isPlain ∧ ' ' ∉ w.toList.head? ∧ ' ' ∉ w.toList.getLast?

instance (w : String) : Decidable (IsPhrase w) :=
  inferInstanceAs (Decidable (w.toList ≠ [] ∧ w.toList.all isPlain ∧ ' ' ∉ w.toList.head? ∧
    ' ' ∉ w.toList.getLast?))

theorem head_not_blank {letters : List Char} (h : List.Forall₂ StandsFor cs letters)
    (hplain : letters.all isPlain) (hfirst : ' ' ∉ letters.head?) :
  ∀ x ∈ cs.head?, Text.isBlank x = false
  := by
  cases h with
  | nil => nofun
  | @cons y c cs letters hy _ =>
    rw [List.all_cons, Bool.and_eq_true] at hplain
    intro x hx
    obtain rfl := Option.some.inj hx
    apply (isSteady_of_standsFor hy hplain.1).2
    rintro rfl
    apply hfirst rfl

theorem steady_of_forall₂ {letters : List Char} (h : List.Forall₂ StandsFor cs letters)
    (hplain : letters.all isPlain) :
  ∀ x ∈ cs, IsSteady x
  := by
  induction h with
  | nil => nofun
  | cons hy _ ih =>
    rw [List.all_cons, Bool.and_eq_true] at hplain
    rw [List.forall_mem_cons]
    use (isSteady_of_standsFor hy hplain.1).1, ih hplain.2

theorem isSolid_of_spells (h : Spells cs w) (hw : IsPhrase w) :
  IsSolid cs
  where
    ne_nil := by
      rintro rfl
      apply hw.1 (List.forall₂_nil_left_iff.mp h)
    trimmed := by
      constructor
      · apply head_not_blank h hw.2.1 hw.2.2.1
      · rw [← List.head?_reverse]
        apply head_not_blank (List.forall₂_reverse_iff.mpr h)
        · rw [List.all_reverse]
          apply hw.2.1
        · rw [List.head?_reverse]
          apply hw.2.2.2
    steady := steady_of_forall₂ h hw.2.1

theorem isSolid_of_number (h : IsNumber cs) :
  IsSolid cs
  := by
  obtain ⟨hne, hdigits⟩ := h
  have hapart : Text.decimalNumbers.Apart Text.whiteSpace := by decide +kernel
  have hblank : ∀ c ∈ cs, Text.isBlank c = false :=
    fun c hc => hapart.has_eq_false (List.all_eq_true.mp hdigits c hc)
  use hne
  · constructor
    · intro c hc
      apply hblank c (List.mem_of_mem_head? hc)
    · intro c hc
      apply hblank c (List.mem_of_mem_getLast? hc)
  · intro c hc
    apply Text.isSteady_of_digit (List.all_eq_true.mp hdigits c hc)

/-- A question that is off the topic is so because of what it starts with, or what it is as a
whole. -/
theorem IsOffTopic.exists_part (h : IsOffTopic cs) :
  ∃ part rest, IsSolid part ∧ cs = part ++ rest ∧
    ∀ rest', (rest = [] → rest' = []) → IsOffTopic (part ++ rest')
  := by
  have hblanks : ∀ {gap : List Char}, gap.all Text.isBlank → ∀ c ∈ gap, IsSteady c :=
    fun hgap c hc => Text.isSteady_of_blank (List.all_eq_true.mp hgap c hc)
  cases h with
  | @sum left gap gap' right sign hleft hgap hsign hgap' hright =>
    have hsteady : IsSteady sign := by
      apply Text.steady_of_all (by decide) sign hsign
    have hmiddle : ∀ c ∈ gap ++ sign :: gap', IsSteady c := by
      rw [List.forall_mem_append, List.forall_mem_cons]
      use hblanks hgap, hsteady, hblanks hgap'
    have hsolid := (isSolid_of_number hleft).around (isSolid_of_number hright) hmiddle
    rw [List.append_assoc, List.cons_append] at hsolid
    use left ++ (gap ++ (sign :: (gap' ++ right))), [], hsolid, (List.append_nil _).symm
    intro rest' hrest
    rw [hrest rfl, List.append_nil]
    exact .sum hleft hgap hsign hgap' hright
  | @joke tell gap whom a gap' joke rest htell hgap hwhom ha hgap' hjoke =>
    have hwhom' : ∀ c ∈ whom, IsSteady c := by
      rcases hwhom with ⟨me, space, hme, hspace, rfl⟩ | rfl
      · rw [List.forall_mem_append]
        use steady_of_forall₂ hme (by decide +kernel), hblanks hspace.2
      · nofun
    have hmiddle : ∀ c ∈ gap ++ (whom ++ (a ++ gap')), IsSteady c := by
      rw [List.forall_mem_append, List.forall_mem_append, List.forall_mem_append]
      use hblanks hgap.2, hwhom', steady_of_forall₂ ha (by decide +kernel), hblanks hgap'.2
    have hsolid := (isSolid_of_spells htell (by decide +kernel)).around
      (isSolid_of_spells hjoke (by decide +kernel)) hmiddle
    simp only [List.append_assoc] at hsolid
    use tell ++ (gap ++ (whom ++ (a ++ (gap' ++ joke)))), rest, hsolid, rfl
    intro rest' _
    exact .joke htell hgap hwhom ha hgap' hjoke
  | @opening words w cs rest hwords hw hcs =>
    have hphrases : ∀ words ∈ openings, ∀ w ∈ words, IsPhrase w := by decide +kernel
    use cs, rest, isSolid_of_spells hcs (hphrases words hwords w hw), rfl
    intro rest' _
    exact .opening hwords hw hcs
  | @greeting w cs hw hcs =>
    have hphrases : ∀ w ∈ greetings, IsPhrase w := by decide +kernel
    use cs, [], isSolid_of_spells hcs (hphrases w hw), (List.append_nil cs).symm
    intro rest' hrest
    rw [hrest rfl, List.append_nil]
    exact .greeting hw hcs

/-- A question is still off the topic when what it starts with and what it ends with stay. -/
theorem IsOffTopic.of_stays (h : IsOffTopic asked)
    (hstays : ∀ part, IsSolid part → Stays part asked plain) :
  IsOffTopic plain
  := by
  obtain ⟨part, rest, hsolid, rfl, hkind⟩ := h.exists_part
  obtain ⟨left, rest', rfl, hleft, hrest⟩ := hstays part hsolid [] rest rfl
  rw [hleft rfl]
  apply hkind rest' hrest

/-! ### Terms -/

/-- The one term with a diacritic of its own. -/
def tanween : String :=
  "فضلاً"

/-- A question that asks for an explanation does so without its diacritics as well, or says the term
that has a diacritic. -/
theorem mentions_or_tanween (h : Mentions allowedTerms asked)
    (hstays : ∀ part, IsSolid part → Stays part asked plain) :
  Mentions allowedTerms plain ∨ tanween.toList <:+: asked
  := by
  have hsolid : ∀ term ∈ allowedTerms, term ≠ tanween → term.toList ≠ [] ∧
      Text.trimChars term.toList = term.toList ∧
      term.toList.all fun c => decide (IsSteady c) := by
    decide +kernel
  obtain ⟨term, hterm, hpart⟩ := h
  by_cases htanween : term = tanween
  · subst htanween
    right
    apply hpart
  · obtain ⟨hne, htrimmed, hsteady⟩ := hsolid term hterm htanween
    left
    exact ⟨term, hterm,
      (hstays _ ⟨hne, Text.isTrimmed_iff.mpr htrimmed, Text.steady_of_all hsteady⟩).isInfix hpart⟩

/-- A religious text is one without its diacritics as well. -/
theorem mentions_religiousTerms (h : Mentions religiousTerms told)
    (hstays : ∀ part, (∀ c ∈ part, IsSteady c) → Stays part told plainTold) :
  Mentions religiousTerms plainTold
  := by
  have hsteady : ∀ term ∈ religiousTerms, term.toList.all fun c => decide (IsSteady c) := by
    decide +kernel
  obtain ⟨term, hterm, hpart⟩ := h
  exact ⟨term, hterm, (hstays _ (Text.steady_of_all (hsteady term hterm))).isInfix hpart⟩

/-! ### Verdicts -/

/-- The diacritics of a question and a hadith let the question pass: they hide that it is off the
topic, or it says the term that has a diacritic and asks for nothing without it, or they make words
long or alike. -/
inductive PassesByDiacritics (asked told plain plainTold : List Char) : Prop where
  | offTopic (hkind : IsOffTopic plain) (hhidden : ¬ IsOffTopic asked)
    (hpasses : Mentions allowedTerms asked ∨ IsNear asked told)
  | term (hkind : ¬ IsOffTopic plain) (hasks : ¬ Mentions allowedTerms plain)
    (hnear : ¬ IsNear plain plainTold) (hterm : tanween.toList <:+: asked)
  | words (hkind : ¬ IsOffTopic plain) (hasks : ¬ Mentions allowedTerms plain)
    (hnear : IsNear asked told)
    (hfar : ¬ IsClose (Text.words isSeparator plain) (Text.words isSeparator plainTold))

/-- The diacritics of a question and a hadith stop the question: they hide the terms that ask for an
explanation, or the keywords of a religious text, or how close the question is to it. -/
inductive StoppedByDiacritics (asked told plain plainTold : List Char) : Prop where
  | term (hkind : ¬ IsOffTopic plain) (hasks : Mentions allowedTerms plain)
    (hhidden : ¬ Mentions allowedTerms asked) (hnear : ¬ IsNear asked told)
  | keyword (hkind : ¬ IsOffTopic plain) (hnear : IsNear plain plainTold)
    (hasks : ¬ Mentions allowedTerms asked) (hhidden : ¬ Mentions religiousTerms told)
  | words (hkind : ¬ IsOffTopic plain) (hnear : IsNear plain plainTold)
    (hasks : ¬ Mentions allowedTerms asked)
    (hfar : ¬ IsClose (Text.words isSeparator asked) (Text.words isSeparator told))

/-- The gate lets a question pass, given in the form in which it is compared. -/
def Passes (asked told : List Char) : Prop :=
  ¬ IsOffTopic asked ∧ (Mentions allowedTerms asked ∨ IsNear asked told)

theorem passesByDiacritics_iff (hkind : IsOffTopic asked → IsOffTopic plain)
    (hasks : Mentions allowedTerms asked →
      Mentions allowedTerms plain ∨ tanween.toList <:+: asked)
    (hreligious : Mentions religiousTerms told → Mentions religiousTerms plainTold) :
  PassesByDiacritics asked told plain plainTold ↔ Passes asked told ∧ ¬ Passes plain plainTold
  := by
  constructor
  · rintro (⟨hplain, hhidden, hpasses⟩ | ⟨hplain, hnone, hnear, hterm⟩ |
      ⟨hplain, hnone, hnear, hfar⟩)
    · use ⟨hhidden, hpasses⟩, fun h => h.1 hplain
    · have hmember : tanween ∈ allowedTerms := by decide +kernel
      constructor
      · exact ⟨hplain ∘ hkind, .inl ⟨tanween, hmember, hterm⟩⟩
      · rintro ⟨-, h | h⟩
        · apply hnone h
        · apply hnear h
    · constructor
      · use hplain ∘ hkind, .inr hnear
      · rintro ⟨-, h | h⟩
        · apply hnone h
        · apply hfar h.2
  · rintro ⟨⟨hoff, hpasses⟩, hnot⟩
    by_cases hplain : IsOffTopic plain
    · exact .offTopic hplain hoff hpasses
    · have hnone : ¬ Mentions allowedTerms plain := fun h => hnot ⟨hplain, .inl h⟩
      have hnear : ¬ IsNear plain plainTold := fun h => hnot ⟨hplain, .inr h⟩
      rcases hpasses with hpasses | hpasses
      · exact .term hplain hnone hnear ((hasks hpasses).resolve_left hnone)
      · apply PassesByDiacritics.words hplain hnone hpasses
        intro hclose
        apply hnear ⟨hreligious hpasses.1, hclose⟩

theorem stoppedByDiacritics_iff (hkind : IsOffTopic asked → IsOffTopic plain) :
  StoppedByDiacritics asked told plain plainTold ↔ Passes plain plainTold ∧ ¬ Passes asked told
  := by
  constructor
  · rintro (⟨hplain, hasks, hhidden, hnear⟩ | ⟨hplain, hnear, hasks, hhidden⟩ |
      ⟨hplain, hnear, hasks, hfar⟩)
    · use ⟨hplain, .inl hasks⟩, fun h => h.2.elim hhidden hnear
    · use ⟨hplain, .inr hnear⟩, fun h => h.2.elim hasks fun h => hhidden h.1
    · use ⟨hplain, .inr hnear⟩, fun h => h.2.elim hasks fun h => hfar h.2
  · rintro ⟨⟨hplain, hpasses⟩, hnot⟩
    have hoff : ¬ IsOffTopic asked := hplain ∘ hkind
    have hasks : ¬ Mentions allowedTerms asked := fun h => hnot ⟨hoff, .inl h⟩
    have hnear : ¬ IsNear asked told := fun h => hnot ⟨hoff, .inr h⟩
    rcases hpasses with hpasses | hpasses
    · exact .term hplain hpasses hasks hnear
    · by_cases hreligious : Mentions religiousTerms told
      · apply StoppedByDiacritics.words hplain hpasses hasks
        intro hclose
        apply hnear ⟨hreligious, hclose⟩
      · exact .keyword hplain hpasses hasks hreligious

theorem isRelevant_iff_passes (question hadith : String) :
  isRelevant question hadith = true ↔
    Passes (Text.lowercase (Text.trim question)).toList (Text.lowercase hadith).toList
  := by
  rw [isRelevant_iff, Passes, ← questionForm_eq, Text.toList_lowercase]

/-- A solid part of a question stays in it when the diacritics are removed. -/
theorem stays_question {part : List Char} (h : IsSolid part) (question : String) :
  Stays part (Text.lowercase (Text.trim question)).toList
    (Text.lowercase (Text.trim (Text.stripDiacritics question))).toList
  := by
  rw [← questionForm_eq, ← questionForm_eq, questionForm, questionForm,
    Text.toList_stripDiacritics]
  apply h.stays

/-- A steady part of a hadith stays in it when the diacritics are removed. -/
theorem stays_hadith {part : List Char} (h : ∀ c ∈ part, IsSteady c) (hadith : String) :
  Stays part (Text.lowercase hadith).toList
    (Text.lowercase (Text.stripDiacritics hadith)).toList
  := by
  rw [Text.toList_lowercase, Text.toList_lowercase, Text.toList_stripDiacritics]
  apply Text.stays_stripChars h

/-- A question is relevant to a hadith exactly if it is without diacritics in both, unless the
diacritics let it pass or stop it in one of the six ways. -/
theorem isRelevant_stripDiacritics_iff (question hadith : String) :
  let asked := (Text.lowercase (Text.trim question)).toList
  let told := (Text.lowercase hadith).toList
  let plain := (Text.lowercase (Text.trim (Text.stripDiacritics question))).toList
  let plainTold := (Text.lowercase (Text.stripDiacritics hadith)).toList
  isRelevant question hadith
      = isRelevant (Text.stripDiacritics question) (Text.stripDiacritics hadith) ↔
    ¬ PassesByDiacritics asked told plain plainTold ∧
      ¬ StoppedByDiacritics asked told plain plainTold
  := by
  intro asked told plain plainTold
  have hstays : ∀ part, IsSolid part → Stays part asked plain :=
    fun _ hpart => stays_question hpart question
  have hkind : IsOffTopic asked → IsOffTopic plain := fun h => h.of_stays hstays
  have hasks : Mentions allowedTerms asked →
      Mentions allowedTerms plain ∨ tanween.toList <:+: asked :=
    fun h => mentions_or_tanween h hstays
  have hreligious : Mentions religiousTerms told → Mentions religiousTerms plainTold :=
    fun h => mentions_religiousTerms h fun _ hpart => stays_hadith hpart hadith
  rw [passesByDiacritics_iff hkind hasks hreligious, stoppedByDiacritics_iff hkind,
    not_and_not_right, not_and_not_right, ← iff_def, Bool.eq_iff_iff, isRelevant_iff_passes,
    isRelevant_iff_passes]

/-- Vowel signs hide the keyword of a hadith, and an elongation stroke hides that a question is off
the topic. -/
theorem not_alike_of_vowels :
  isRelevant "رسول" "قَالَ رَسُولُ اللَّهِ" = false ∧
    isRelevant (Text.stripDiacritics "رسول") (Text.stripDiacritics "قَالَ رَسُولُ اللَّهِ") = true ∧
    isRelevant "foـod, please" "" = true ∧
    isRelevant (Text.stripDiacritics "foـod, please") (Text.stripDiacritics "") = false
  := by
  decide +kernel

end HadithService.Relevance
