import HadithService.Proofs.Text.Folding

/-!
# The two forms of a sigma

The capital sigma has two lower-case forms, and which one it gets depends on whether the letters
next to it have a case, marks aside.  A part of a text is therefore lowered by what stands before
and after it (`Text.lowerBetween_append`).  Only a sigma that is its first or last letter can be
affected: a part without a loose sigma is lowered alike wherever it stands
(`Text.lowerBetween_of_not_loose`), and one with a loose sigma does not occur in lowered form in
some text that contains it (`Text.HasLooseSigma.exists_not_isInfix`).
-/

namespace HadithService.Text

variable {cs rest : List Char} {before after : Bool} {c : Char}

/-! ### Letters and their neighbours -/

/-- The characters of a text that are not looked past for the case of their neighbours. -/
def letters (cs : List Char) : List Char :=
  cs.filter fun c => !isCaseIgnorable c

theorem letters_append (cs rest : List Char) :
  letters (cs ++ rest) = letters cs ++ letters rest
  := List.filter_append cs rest

theorem letters_cons_of_ignorable (hc : isCaseIgnorable c = true) (cs : List Char) :
  letters (c :: cs) = letters cs
  := List.filter_cons_of_neg (by simp [hc])

theorem letters_cons_of_not_ignorable (hc : isCaseIgnorable c = false) (cs : List Char) :
  letters (c :: cs) = c :: letters cs
  := List.filter_cons_of_pos (by simp [hc])

/-- Whether the last of some letters has a case; if there is none, whether the letter before them
has. -/
def lastCased (before : Bool) (letters : List Char) : Bool :=
  (letters.getLast?.map isCased).getD before

/-- Whether the first of some letters has a case; if there is none, whether the letter after them
has. -/
def firstCased (letters : List Char) (after : Bool) : Bool :=
  (letters.head?.map isCased).getD after

theorem lastCased_cons (before : Bool) (c : Char) (cs : List Char) :
  lastCased before (c :: cs) = lastCased (isCased c) cs
  := by
  rw [lastCased, lastCased, List.getLast?_cons]
  cases cs.getLast? with
  | none => rfl
  | some d => rfl

theorem firstCased_append (cs rest : List Char) (after : Bool) :
  firstCased (cs ++ rest) after = firstCased cs (firstCased rest after)
  := by
  cases cs with
  | nil => rfl
  | cons c cs => rfl

theorem casedNext_eq (cs : List Char) :
  casedNext cs = firstCased (letters cs) false
  := by
  induction cs with
  | nil => rfl
  | cons c cs ih =>
    cases hc : isCaseIgnorable c with
    | true =>
      rw [letters_cons_of_ignorable hc, ← ih, casedNext, casedNext, List.dropWhile_cons_of_pos hc]
    | false =>
      rw [letters_cons_of_not_ignorable hc, casedNext, List.dropWhile_cons_of_neg (by simp [hc])]
      rfl

/-! ### Parts of texts -/

/-- The lower-case forms of the characters of a part of a text, given whether the letters before and
after it have a case. -/
def lowerBetween : Bool → Bool → List Char → List Char
  | _, _, [] => []
  | before, after, c :: rest =>
    let form :=
      if c == 'Σ' then [if before && !firstCased (letters rest) after then 'ς' else 'σ']
      else lowerChar c
    form ++ lowerBetween (if isCaseIgnorable c then before else isCased c) after rest

theorem lowerBetween_cons (before after : Bool) (c : Char) (cs : List Char) :
  lowerBetween before after (c :: cs)
    = (if c == 'Σ' then [if before && !firstCased (letters cs) after then 'ς' else 'σ']
        else lowerChar c)
      ++ lowerBetween (if isCaseIgnorable c then before else isCased c) after cs
  := rfl

theorem lowerFrom_eq (before : Bool) (cs : List Char) :
  lowerFrom before cs = lowerBetween before false cs
  := by
  induction cs generalizing before with
  | nil => rfl
  | cons c cs ih => rw [lowerFrom, lowerBetween_cons, ih, casedNext_eq]

theorem isCaseIgnorable_sigma :
  isCaseIgnorable 'Σ' = false
  := rfl

theorem isCased_sigma :
  isCased 'Σ' = true
  := rfl

theorem lowerBetween_cons_of_ignorable (hc : isCaseIgnorable c = true) :
  lowerBetween before after (c :: cs) = lowerChar c ++ lowerBetween before after cs
  := by
  have hsigma : c ≠ 'Σ' := by
    rintro rfl
    cases hc
  rw [lowerBetween_cons, if_pos hc, if_neg (by simpa using hsigma)]

theorem lowerBetween_cons_of_letter (hc : isCaseIgnorable c = false) (hsigma : c ≠ 'Σ') :
  lowerBetween before after (c :: cs) = lowerChar c ++ lowerBetween (isCased c) after cs
  := by
  rw [lowerBetween_cons, hc, if_neg (by simpa using hsigma)]
  rfl

theorem lowerBetween_cons_sigma :
  lowerBetween before after ('Σ' :: cs)
    = (if before && !firstCased (letters cs) after then 'ς' else 'σ') :: lowerBetween true after cs
  := lowerBetween_cons before after 'Σ' cs

/-- The two parts of a text are lowered by what they end and start with. -/
theorem lowerBetween_append (before after : Bool) (cs rest : List Char) :
  lowerBetween before after (cs ++ rest)
    = lowerBetween before (firstCased (letters rest) after) cs
      ++ lowerBetween (lastCased before (letters cs)) after rest
  := by
  induction cs generalizing before with
  | nil => rfl
  | cons c cs ih =>
    rw [List.cons_append]
    cases hc : isCaseIgnorable c with
    | true =>
      rw [lowerBetween_cons_of_ignorable hc, lowerBetween_cons_of_ignorable hc,
        letters_cons_of_ignorable hc, ih, List.append_assoc]
    | false =>
      rw [letters_cons_of_not_ignorable hc, lastCased_cons]
      by_cases hsigma : c = 'Σ'
      · subst hsigma
        rw [lowerBetween_cons_sigma, lowerBetween_cons_sigma, ih, letters_append,
          firstCased_append, isCased_sigma, List.cons_append]
      · rw [lowerBetween_cons_of_letter hc hsigma, lowerBetween_cons_of_letter hc hsigma, ih,
          List.append_assoc]

/-- The form of a sigma, and of what is around it. -/
theorem lowerBetween_append_sigma (before after : Bool) (left right : List Char) :
  lowerBetween before after (left ++ 'Σ' :: right)
    = lowerBetween before true left
      ++ (if lastCased before (letters left) && !firstCased (letters right) after then 'ς' else 'σ')
        :: lowerBetween true after right
  := by
  have hfirst : firstCased (letters ('Σ' :: right)) after = true := by
    rw [letters_cons_of_not_ignorable isCaseIgnorable_sigma]
    apply isCased_sigma
  rw [lowerBetween_append, hfirst, lowerBetween_cons_sigma]

/-- What a part of a text is lowered to occurs in the lowered text. -/
theorem lowerBetween_isInfix (left cs right : List Char) :
  lowerBetween (lastCased false (letters left)) (firstCased (letters right) false) cs
    <:+: lowerChars (left ++ cs ++ right)
  := by
  rw [lowerChars, lowerFrom_eq, List.append_assoc, lowerBetween_append, lowerBetween_append]
  use lowerBetween false (firstCased (letters (cs ++ right)) false) left
  use lowerBetween (lastCased (lastCased false (letters left)) (letters cs)) false right
  rw [List.append_assoc]

/-- No letter with a case stands next to what is between two texts, marks aside. -/
def StandsApart (left right : List Char) : Prop :=
  lastCased false (letters left) = false ∧ firstCased (letters right) false = false

/-- A part of a text that stands apart is lowered as if it stood alone. -/
theorem StandsApart.isInfix {left right : List Char} (h : StandsApart left right)
    (cs : List Char) :
  lowerChars cs <:+: lowerChars (left ++ cs ++ right)
  := by
  have hpart := lowerBetween_isInfix left cs right
  rw [h.1, h.2, ← lowerFrom_eq] at hpart
  apply hpart

/-- What stands before a part of a text does not matter unless its first letter is a sigma that no
letter with a case comes after. -/
theorem lowerBetween_of_before
    (h : ∀ rest, letters cs = 'Σ' :: rest → firstCased rest after = true) :
  lowerBetween before after cs = lowerBetween false after cs
  := by
  induction cs with
  | nil => rfl
  | cons c cs ih =>
    cases hc : isCaseIgnorable c with
    | true =>
      rw [letters_cons_of_ignorable hc] at h
      rw [lowerBetween_cons_of_ignorable hc, lowerBetween_cons_of_ignorable hc, ih h]
    | false =>
      by_cases hsigma : c = 'Σ'
      · subst hsigma
        have hnext := h (letters cs) (letters_cons_of_not_ignorable hc cs)
        rw [lowerBetween_cons_sigma, lowerBetween_cons_sigma, hnext]
        simp
      · rw [lowerBetween_cons_of_letter hc hsigma, lowerBetween_cons_of_letter hc hsigma]

/-- What stands after a part of a text does not matter unless its last letter is a sigma that comes
after a letter with a case. -/
theorem lowerBetween_of_after
    (h : ∀ init, letters cs = init ++ ['Σ'] → lastCased before init = false) :
  lowerBetween before after cs = lowerBetween before false cs
  := by
  induction cs generalizing before with
  | nil => rfl
  | cons c cs ih =>
    cases hc : isCaseIgnorable c with
    | true =>
      rw [letters_cons_of_ignorable hc] at h
      rw [lowerBetween_cons_of_ignorable hc, lowerBetween_cons_of_ignorable hc, ih h]
    | false =>
      rw [letters_cons_of_not_ignorable hc] at h
      have hrest : lowerBetween (isCased c) after cs = lowerBetween (isCased c) false cs := by
        apply ih
        intro init hinit
        rw [← lastCased_cons before]
        apply h
        rw [hinit, List.cons_append]
      by_cases hsigma : c = 'Σ'
      · subst hsigma
        rw [isCased_sigma] at hrest
        rw [lowerBetween_cons_sigma, lowerBetween_cons_sigma, hrest]
        cases hletters : letters cs with
        | nil =>
          have hbefore : before = false := h [] (by rw [hletters, List.nil_append])
          rw [hbefore]
          rfl
        | cons d ds => rfl
      · rw [lowerBetween_cons_of_letter hc hsigma, lowerBetween_cons_of_letter hc hsigma, hrest]

/-! ### Loose sigmas -/

/-- The form of a sigma depends on what stands around the text: it is the first letter, and no
letter with a case comes next, or the last letter, and the one before it has a case. -/
inductive HasLooseSigma (cs : List Char) : Prop where
  | first {rest : List Char} (h : letters cs = 'Σ' :: rest)
    (hnext : ∀ c ∈ rest.head?, isCased c = false)
  | last {init : List Char} {c : Char} (h : letters cs = init ++ [c] ++ ['Σ'])
    (hc : isCased c = true)

/-- Without a loose sigma a text is lowered alike wherever it stands. -/
theorem lowerBetween_of_not_loose (h : ¬ HasLooseSigma cs) :
  lowerBetween before after cs = lowerBetween false false cs
  := by
  rw [lowerBetween_of_before, lowerBetween_of_after]
  · intro init hinit
    by_contra hlast
    rcases List.eq_nil_or_concat' init with rfl | ⟨init, c, rfl⟩
    · apply hlast rfl
    · apply h (.last hinit _)
      simpa [lastCased] using hlast
  · intro rest hrest
    by_contra hfirst
    apply h (.first hrest _)
    intro c hc
    rw [Option.mem_def] at hc
    simpa [firstCased, hc] using hfirst

theorem isInfix_of_not_loose (h : ¬ HasLooseSigma cs) (left right : List Char) :
  lowerChars cs <:+: lowerChars (left ++ cs ++ right)
  := by
  have hpart := lowerBetween_isInfix left cs right
  rw [lowerBetween_of_not_loose h, ← lowerFrom_eq] at hpart
  apply hpart

theorem lowerBetween_of_no_letters (h : letters cs = []) :
  lowerBetween before after cs = lowerBetween false false cs
  := by
  apply lowerBetween_of_not_loose
  rintro (⟨hfirst⟩ | ⟨hlast⟩)
  · rw [h] at hfirst
    cases hfirst
  · rw [h] at hlast
    simp at hlast

/-- A text is split at one of its letters. -/
theorem exists_of_letters_eq {front back : List Char} (h : letters cs = front ++ c :: back) :
  ∃ left right, cs = left ++ c :: right ∧ letters left = front ∧ letters right = back
  := by
  obtain ⟨left, others, rfl, hleft, hothers⟩ := List.filter_eq_append_iff.mp h
  obtain ⟨marks, right, rfl, hmarks, -, hright⟩ := List.filter_eq_cons_iff.mp hothers
  use left ++ marks, right
  constructor
  · rw [List.append_assoc]
  constructor
  · have hnone : letters marks = [] := List.filter_eq_nil_iff.mpr hmarks
    rw [letters_append, hnone, List.append_nil]
    apply hleft
  · apply hright

theorem not_isInfix_of_count_lt {part whole : List Char} (c : Char)
    (h : whole.count c < part.count c) :
  ¬ part <:+: whole
  := fun hoccurs => Nat.not_le.mpr h (hoccurs.sublist.count_le c)

/-- The letter that is put next to loose sigmas below. -/
theorem lowerBetween_cons_alpha (before after : Bool) (cs : List Char) :
  lowerBetween before after ('α' :: cs) = 'α' :: lowerBetween true after cs
  := lowerBetween_cons_of_letter rfl (by decide)

/-- A text that starts with a loose sigma is lowered to something else after a letter. -/
theorem not_isInfix_after_letter {marks others : List Char} (hmarks : letters marks = [])
    (hothers : firstCased (letters others) false = false) :
  ¬ lowerBetween false false (marks ++ 'Σ' :: others)
    <:+: lowerBetween false false ('α' :: (marks ++ 'Σ' :: others))
  := by
  have halone : lowerBetween false false (marks ++ 'Σ' :: others)
      = lowerBetween false false marks ++ 'σ' :: lowerBetween true false others := by
    rw [lowerBetween_append_sigma, lowerBetween_of_no_letters hmarks, hmarks]
    rfl
  have hafter : lowerBetween true false (marks ++ 'Σ' :: others)
      = lowerBetween false false marks ++ 'ς' :: lowerBetween true false others := by
    rw [lowerBetween_append_sigma, lowerBetween_of_no_letters hmarks, hmarks, hothers]
    rfl
  rw [lowerBetween_cons_alpha, halone, hafter]
  apply not_isInfix_of_count_lt 'σ'
  simp

/-- A text that ends with a loose sigma is lowered to something else before a letter. -/
theorem not_isInfix_before_letter {marks others : List Char} (hmarks : letters marks = [])
    (hothers : lastCased false (letters others) = true) :
  ¬ lowerBetween false false (others ++ 'Σ' :: marks)
    <:+: lowerBetween false false (others ++ 'Σ' :: marks ++ ['α'])
  := by
  have halone : lowerBetween false false (others ++ 'Σ' :: marks)
      = lowerBetween false true others ++ 'ς' :: lowerBetween false false marks := by
    rw [lowerBetween_append_sigma, lowerBetween_of_no_letters hmarks, hmarks, hothers]
    rfl
  have hbefore : lowerBetween false true (others ++ 'Σ' :: marks)
      = lowerBetween false true others ++ 'σ' :: lowerBetween false false marks := by
    rw [lowerBetween_append_sigma, lowerBetween_of_no_letters hmarks, hmarks, hothers]
    rfl
  have hletter : lowerBetween false false (others ++ 'Σ' :: marks ++ ['α'])
      = lowerBetween false true (others ++ 'Σ' :: marks) ++ ['α'] := by
    have hcased : firstCased (letters ['α']) false = true := rfl
    rw [lowerBetween_append, hcased, lowerBetween_cons_alpha]
    rfl
  rw [hletter, halone, hbefore]
  apply not_isInfix_of_count_lt 'ς'
  simp

/-- A text with a loose sigma is lowered to something that does not occur in lower case where a
letter with a case stands before or after the text. -/
theorem HasLooseSigma.exists_not_isInfix (h : HasLooseSigma cs) :
  ∃ left right : List Char, stripChars left = left ∧ stripChars right = right ∧
    ¬ lowerChars cs <:+: lowerChars (left ++ cs ++ right)
  := by
  have hstrip : stripChars ['α'] = ['α'] := rfl
  simp only [lowerChars, lowerFrom_eq]
  cases h with
  | @first rest h hnext =>
    rw [← List.nil_append ('Σ' :: rest)] at h
    obtain ⟨marks, others, rfl, hmarks, rfl⟩ := exists_of_letters_eq h
    use ['α'], [], hstrip, rfl
    rw [List.append_nil]
    apply not_isInfix_after_letter hmarks
    cases hothers : (letters others).head? with
    | none =>
      rw [firstCased, hothers]
      rfl
    | some c =>
      rw [firstCased, hothers]
      apply hnext c hothers
  | @last init c h hc =>
    obtain ⟨others, marks, rfl, hothers, hmarks⟩ := exists_of_letters_eq h
    use [], ['α'], rfl, hstrip
    rw [List.nil_append]
    apply not_isInfix_before_letter hmarks
    rw [hothers, lastCased, List.getLast?_concat]
    apply hc

end HadithService.Text
