import HadithService.Proofs.Text.Folding

/-!
# Parts of texts without their diacritics

It makes no difference to a text whether its diacritics are removed before or after it is lowered,
but for the form of its sigmas (`Text.map_lowerFrom_stripChars`).  A part of a lowered text in which
there are neither diacritics nor sigmas therefore stays where it stands when the diacritics of the
text are removed (`Text.stays_stripChars`), and when the text is trimmed as well if neither end of
the part is blank (`Text.IsSolid.stays`).
-/

namespace HadithService.Text

variable {part cs cs' before after : List Char} {cased cased' : Bool} {c d : Char}

/-! ### Lower-case forms of letters -/

theorem lowerIn_cases (n : Nat) (runs : List CaseRun) :
  lowerIn n runs = n ∨ ∃ run ∈ runs, run.first ≤ n ∧ n ≤ run.last ∧
    lowerIn n runs = run.image + (n - run.first)
  := by
  induction runs with
  | nil =>
    left
    rfl
  | cons run runs ih =>
    rw [lowerIn]
    split
    case isTrue hlast =>
      split
      case isTrue hfirst =>
        rw [Bool.and_eq_true, decide_eq_true_iff] at hfirst
        right
        use run, List.mem_cons_self, hfirst.1, hlast
      case isFalse =>
        left
        rfl
    case isFalse =>
      apply ih.imp_right
      rintro ⟨run', hrun', h⟩
      exact ⟨run', List.mem_cons_of_mem run hrun', h⟩

/-- What is not a diacritic is not lowered to one. -/
theorem isDiacritic_of_mem_lowerChar (hc : isDiacritic c = false) (hd : d ∈ lowerChar c) :
  isDiacritic d = false
  := by
  have hforms : ∀ run ∈ caseRuns, (run.image + (run.last - run.first) < 0xd800 ∨
      0xdfff < run.image ∧ run.image + (run.last - run.first) < 0x110000) ∧
      ∀ r ∈ diacritics.ranges, r.2 < run.image ∨ run.image + (run.last - run.first) < r.1 := by
    decide +kernel
  rw [lowerChar] at hd
  split at hd
  · rcases List.mem_pair.mp hd with rfl | rfl
    · rfl
    · rfl
  · obtain rfl := List.mem_singleton.mp hd
    rcases lowerIn_cases c.toNat caseRuns with hsame | ⟨run, hrun, hfirst, hlast, hform⟩
    · rwa [hsame, Char.ofNat_toNat]
    · obtain ⟨hrange, hapart⟩ := hforms run hrun
      have hvalid : (run.image + (c.toNat - run.first)).isValidChar := by
        apply hrange.imp
        · omega
        · omega
      have hcode : (Char.ofNat (lowerIn c.toNat caseRuns)).toNat
          = run.image + (c.toNat - run.first) := by
        rw [hform, Char.ofNat, dif_pos hvalid]
        rfl
      by_contra hdiacritic
      obtain ⟨r, hr, hle, hge⟩ := CodeRanges.has_iff.mp (Bool.not_eq_false _ ▸ hdiacritic)
      have hoff := hapart r hr
      omega

/-! ### Sigmas -/

/-- A character, or the other small sigma in the place of the final one. -/
def unfinal (c : Char) : Char :=
  if c = 'ς' then 'σ' else c

theorem unfinal_of_ne (hc : c ≠ 'ς') :
  unfinal c = c
  := if_neg hc

theorem isDiacritic_unfinal (c : Char) :
  isDiacritic (unfinal c) = isDiacritic c
  := by
  rw [unfinal]
  split
  case isTrue hfinal =>
    subst hfinal
    rfl
  case isFalse => rfl

theorem stripChars_cons_of_diacritic (hc : isDiacritic c = true) (cs : List Char) :
  stripChars (c :: cs) = stripChars cs
  := List.filter_cons_of_neg (by simp [hc])

theorem stripChars_cons_of_letter (hc : isDiacritic c = false) (cs : List Char) :
  stripChars (c :: cs) = c :: stripChars cs
  := List.filter_cons_of_pos (by simp [hc])

/-- A text is lowered alike with and without its diacritics, but for its sigmas. -/
theorem map_lowerFrom_stripChars (cased cased' : Bool) (cs : List Char) :
  (lowerFrom cased (stripChars cs)).map unfinal = stripChars ((lowerFrom cased' cs).map unfinal)
  := by
  induction cs generalizing cased cased' with
  | nil => rfl
  | cons c cs ih =>
    cases hc : isDiacritic c with
    | true =>
      have hfinal : c ≠ 'ς' := by
        rintro rfl
        cases hc
      rw [stripChars_cons_of_diacritic hc, lowerFrom_cons_of_lowerChar_eq
        (lowerChar_of_diacritic hc) (ne_sigma_of_diacritic hc), List.map_cons, unfinal_of_ne hfinal,
        stripChars_cons_of_diacritic hc]
      apply ih
    | false =>
      rw [stripChars_cons_of_letter hc, lowerFrom, lowerFrom, List.map_append, List.map_append,
        stripChars_append]
      congr 1
      · by_cases hsigma : c = 'Σ'
        · subst hsigma
          simp only [beq_self_eq_true, if_true]
          split
          · split
            · rfl
            · rfl
          · split
            · rfl
            · rfl
        · rw [if_neg (by simpa using hsigma), if_neg (by simpa using hsigma), stripChars]
          symm
          rw [List.filter_eq_self]
          intro d hd
          obtain ⟨e, he, rfl⟩ := List.mem_map.mp hd
          rw [isDiacritic_unfinal, isDiacritic_of_mem_lowerChar hc he]
          rfl
      · apply ih

/-! ### Parts that stay -/

/-- A part that stands in a text stands in another one as well, and at the start or at the end if it
does so in the first. -/
def Stays (part cs cs' : List Char) : Prop :=
  ∀ left right, cs = left ++ part ++ right →
    ∃ left' right', cs' = left' ++ part ++ right' ∧ (left = [] → left' = []) ∧
      (right = [] → right' = [])

theorem Stays.trans {cs'' : List Char} (h : Stays part cs cs') (h' : Stays part cs' cs'') :
  Stays part cs cs''
  := by
  intro left right hcs
  obtain ⟨left', right', hcs', hleft, hright⟩ := h left right hcs
  obtain ⟨left'', right'', hcs'', hleft', hright'⟩ := h' left' right' hcs'
  exact ⟨left'', right'', hcs'', hleft' ∘ hleft, hright' ∘ hright⟩

theorem Stays.isInfix (h : Stays part cs cs') (hpart : part <:+: cs) :
  part <:+: cs'
  := by
  obtain ⟨left, right, hcs⟩ := hpart
  obtain ⟨left', right', hcs', -⟩ := h left right hcs.symm
  use left', right', hcs'.symm

/-- A character that stays in a lowered text, whatever becomes of the diacritics around it. -/
structure IsSteady (c : Char) : Prop where
  not_diacritic : isDiacritic c = false
  ne_sigma : c ≠ 'σ'
  ne_final : c ≠ 'ς'

instance (c : Char) : Decidable (IsSteady c) :=
  decidable_of_iff (isDiacritic c = false ∧ c ≠ 'σ' ∧ c ≠ 'ς')
    ⟨fun ⟨h, h', h''⟩ => ⟨h, h', h''⟩, fun ⟨h, h', h''⟩ => ⟨h, h', h''⟩⟩

theorem steady_of_all (h : part.all fun c => decide (IsSteady c)) :
  ∀ c ∈ part, IsSteady c
  := fun c hc => of_decide_eq_true (List.all_eq_true.mp h c hc)

/-- The characters of a class that is apart from the diacritics and has no sigma are steady. -/
theorem isSteady_of_has {p : CodeRanges} (hapart : p.Apart diacritics)
    (hsigma : p.has 'σ' = false) (hfinal : p.has 'ς' = false) (hc : p.has c = true) :
  IsSteady c
  where
    not_diacritic := hapart.has_eq_false hc
    ne_sigma := by
      rintro rfl
      rw [hsigma] at hc
      cases hc
    ne_final := by
      rintro rfl
      rw [hfinal] at hc
      cases hc

theorem isSteady_of_blank (hc : isBlank c = true) :
  IsSteady c
  := isSteady_of_has (by decide) rfl rfl hc

theorem isSteady_of_digit (hc : isDecimalDigit c = true) :
  IsSteady c
  := isSteady_of_has (by decide +kernel) rfl rfl hc

theorem map_unfinal_of_steady (h : ∀ c ∈ part, IsSteady c) :
  part.map unfinal = part
  := by
  have hsame : part.map unfinal = part.map id :=
    List.map_congr_left fun c hc => unfinal_of_ne (h c hc).ne_final
  rw [hsame, List.map_id]

theorem stripChars_of_steady (h : ∀ c ∈ part, IsSteady c) :
  stripChars part = part
  := by
  rw [stripChars, List.filter_eq_self]
  intro c hc
  rw [(h c hc).not_diacritic]
  rfl

theorem eq_of_map_unfinal (h : ∀ c ∈ cs.map unfinal, IsSteady c) :
  cs.map unfinal = cs
  := by
  have hsame : cs.map unfinal = cs.map id := by
    apply List.map_congr_left
    intro c hc
    apply unfinal_of_ne
    rintro rfl
    apply (h _ (List.mem_map_of_mem hc)).ne_sigma rfl
  rw [hsame, List.map_id]

/-- A part of steady characters stays in a text when its diacritics are removed. -/
theorem stays_stripChars (h : ∀ c ∈ part, IsSteady c) (cs : List Char) :
  Stays part (lowerFrom cased cs) (lowerFrom cased' (stripChars cs))
  := by
  intro left right hcs
  have hpart : stripChars (part.map unfinal) = part := by
    rw [map_unfinal_of_steady h, stripChars_of_steady h]
  have hmap := map_lowerFrom_stripChars cased' cased cs
  rw [hcs, List.map_append, List.map_append, stripChars_append, stripChars_append, hpart,
    List.map_eq_append_iff] at hmap
  obtain ⟨front, right', hcs', hfront, hright⟩ := hmap
  obtain ⟨left', part', rfl, hleft, rfl⟩ := List.map_eq_append_iff.mp hfront
  rw [eq_of_map_unfinal h]
  use left', right', hcs'
  constructor
  · rintro rfl
    apply List.map_eq_nil_iff.mp hleft
  · rintro rfl
    apply List.map_eq_nil_iff.mp hright

/-! ### Blanks around a text -/

/-- Steady characters, at least one, of which neither the first nor the last is blank. -/
structure IsSolid (part : List Char) : Prop where
  ne_nil : part ≠ []
  trimmed : IsTrimmed part
  steady : ∀ c ∈ part, IsSteady c

/-- What stands between two solid parts may be blank. -/
theorem IsSolid.around {left right : List Char} (hleft : IsSolid left) (hright : IsSolid right)
    (h : ∀ c ∈ cs, IsSteady c) :
  IsSolid (left ++ (cs ++ right))
  where
    ne_nil := by simp [hleft.ne_nil]
    trimmed := by
      constructor
      · rw [List.head?_append_of_ne_nil _ hleft.ne_nil]
        apply hleft.trimmed.1
      · rw [← List.append_assoc, List.getLast?_append_of_ne_nil _ hright.ne_nil]
        apply hright.trimmed.2
    steady := by
      intro c hc
      rw [List.mem_append, List.mem_append] at hc
      rcases hc with hc | hc | hc
      · apply hleft.steady c hc
      · apply h c hc
      · apply hright.steady c hc

theorem IsSolid.stays_of_before (h : IsSolid part) (hbefore : before.all isBlank)
    (cs : List Char) :
  Stays part (before ++ cs) cs
  := by
  intro left right heq
  rw [List.append_assoc, List.append_eq_append_iff] at heq
  rcases heq with ⟨left', rfl, rfl⟩ | ⟨blanks, rfl, hblanks⟩
  · use left', right, (List.append_assoc _ _ _).symm
    exact ⟨fun hnil => (List.append_eq_nil_iff.mp hnil).2, id⟩
  · cases blanks with
    | nil =>
      use [], right, hblanks.symm
      exact ⟨fun _ => rfl, id⟩
    | cons c blanks =>
      obtain ⟨d, rest, rfl⟩ := List.exists_cons_of_ne_nil h.ne_nil
      obtain ⟨rfl, -⟩ := List.cons.inj hblanks
      have hblank : isBlank d = true := by
        apply List.all_eq_true.mp hbefore
        simp
      rw [h.trimmed.1 d rfl] at hblank
      cases hblank

theorem IsSolid.stays_of_after (h : IsSolid part) (hafter : after.all isBlank) (cs : List Char) :
  Stays part (cs ++ after) cs
  := by
  intro left right heq
  rw [List.append_eq_append_iff] at heq
  rcases heq with ⟨blanks, hblanks, rfl⟩ | ⟨right', rfl, rfl⟩
  · rcases List.eq_nil_or_concat' blanks with rfl | ⟨blanks, c, rfl⟩
    · use left, [], by rw [List.append_nil, hblanks, List.append_nil]
      exact ⟨id, fun _ => rfl⟩
    · obtain ⟨init, d, rfl⟩ := (List.eq_nil_or_concat' part).resolve_left h.ne_nil
      rw [← List.append_assoc, ← List.append_assoc] at hblanks
      obtain ⟨-, hlast⟩ := List.append_inj' hblanks rfl
      obtain rfl := List.singleton_inj.mp hlast
      have hblank : isBlank d = true := by
        apply List.all_eq_true.mp hafter
        simp
      rw [h.trimmed.2 d (List.getLast?_concat ..)] at hblank
      cases hblank
  · use left, right', rfl
    exact ⟨id, fun hnil => (List.append_eq_nil_iff.mp hnil).1⟩

/-- A part that does not start or end with a blank stays in a text when this is trimmed. -/
theorem IsSolid.stays_trimChars (h : IsSolid part) (cs : List Char) :
  Stays part (lowerChars cs) (lowerChars (trimChars cs))
  := by
  obtain ⟨before, after, hcs, hbefore, hafter⟩ := exists_trimChars cs
  have hlower : lowerChars cs = before ++ lowerChars (trimChars cs) ++ after := by
    rw [← lowerChars_surrounded (isNeutral_of_all_blank hbefore) (isNeutral_of_all_blank hafter),
      ← hcs]
  rw [hlower]
  apply (h.stays_of_after hafter _).trans (h.stays_of_before hbefore _)

/-- A solid part of a trimmed text stays in it when its diacritics are removed before it is
trimmed. -/
theorem IsSolid.stays (h : IsSolid part) (cs : List Char) :
  Stays part (lowerChars (trimChars cs)) (lowerChars (trimChars (stripChars cs)))
  := by
  rw [← trimChars_stripChars_trimChars cs]
  apply (stays_stripChars h.steady _).trans (h.stays_trimChars _)

end HadithService.Text
