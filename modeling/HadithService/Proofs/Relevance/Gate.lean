import HadithService.Proofs.Relevance.Pattern
import HadithService.Proofs.Text.Folding
import HadithService.Relevance.Gate

/-!
# Questions that are decided by their words

The patterns of the gate describe sums, requests for jokes, openings and greetings
(`Relevance.isDenied_iff`).  A question of these kinds is never relevant, and any other that asks
for an explanation always is, whatever the hadith (`Relevance.isRelevant_stages`).
-/

namespace HadithService.Relevance

open Pattern (word anyOf inOrder many maybe atStart Spells)

variable {cs : List Char}

/-! ### Questions off the topic -/

/-- A number, in the digits of any script. -/
def IsNumber (cs : List Char) : Prop :=
  cs ≠ [] ∧ cs.all Text.isDecimalDigit

/-- One blank or more. -/
def IsGap (cs : List Char) : Prop :=
  cs ≠ [] ∧ cs.all Text.isBlank

/-- What questions about other subjects start with. -/
def openings : List (List String) :=
  [["weather", "temperature", "climate"],
   ["football", "soccer", "sports match", "game result"],
   ["recipe", "cooking", "food", "restaurant", "drink"],
   ["movie", "film", "actor", "actress", "hollywood", "cinema"],
   ["password", "login", "hack", "malware", "virus"],
   ["love you", "love me", "marry", "girlfriend", "boyfriend", "dating"],
   ["random", "blah", "yapping", "nonsense", "stupid"]]

/-- What is said in greeting. -/
def greetings : List String :=
  ["hello", "hi", "how are you", "good morning", "good night"]

/-- The questions that are off the topic: a sum of two numbers, a request for a joke, a question
with one of the openings, and a greeting with nothing else. -/
inductive IsOffTopic : List Char → Prop where
  | sum {left gap gap' right : List Char} {sign : Char} (hleft : IsNumber left)
    (hgap : gap.all Text.isBlank) (hsign : sign ∈ ['+', '-', '*', '/'])
    (hgap' : gap'.all Text.isBlank) (hright : IsNumber right) :
    IsOffTopic (left ++ (gap ++ (sign :: (gap' ++ right))))
  | joke {tell gap whom a gap' joke rest : List Char} (htell : Spells tell "tell")
    (hgap : IsGap gap)
    (hwhom : (∃ me space, Spells me "me" ∧ IsGap space ∧ whom = me ++ space) ∨ whom = [])
    (ha : Spells a "a") (hgap' : IsGap gap') (hjoke : Spells joke "joke") :
    IsOffTopic (tell ++ (gap ++ (whom ++ (a ++ (gap' ++ joke)))) ++ rest)
  | opening {words : List String} {w : String} {cs rest : List Char} (hwords : words ∈ openings)
    (hw : w ∈ words) (hcs : Spells cs w) : IsOffTopic (cs ++ rest)
  | greeting {w : String} {cs : List Char} (hw : w ∈ greetings) (hcs : Spells cs w) :
    IsOffTopic cs

/-! ### The patterns of the gate -/

/-- The pattern of a sum. -/
def sumPattern : Pattern :=
  inOrder [many (.one .digit), .star (.one .blank), .one (.oneOf ['+', '-', '*', '/']),
    .star (.one .blank), many (.one .digit)]

/-- The pattern of a request for a joke. -/
def jokePattern : Pattern :=
  inOrder [word "tell", many (.one .blank), maybe (inOrder [word "me", many (.one .blank)]),
    word "a", many (.one .blank), word "joke"]

/-- The patterns that are denied, by their kinds. -/
theorem denied_eq :
  denied = sumPattern :: atStart jokePattern
    :: (openings.map (fun words => atStart (anyOf (words.map word)))
      ++ [anyOf (greetings.map word)])
  := rfl

theorem matches_number_iff :
  (many (.one .digit)).Matches cs ↔ IsNumber cs
  := Pattern.matches_many_one_iff

theorem matches_gap_iff :
  (many (.one .blank)).Matches cs ↔ IsGap cs
  := Pattern.matches_many_one_iff

theorem matches_blanks_iff :
  (Pattern.star (.one .blank)).Matches cs ↔ cs.all Text.isBlank
  := Pattern.matches_star_one_iff

theorem matches_words_iff {words : List String}
    (hplain : words.all fun w => w.toList.all Pattern.isPlain) :
  (anyOf (words.map word)).Matches cs ↔ ∃ w ∈ words, Spells cs w
  := by
  simp only [Pattern.matches_anyOf_iff, List.mem_map, exists_exists_and_eq_and]
  apply exists_congr
  intro w
  apply and_congr_right
  intro hw
  apply Pattern.matches_word_iff (List.all_eq_true.mp hplain w hw)

/-! ### What the patterns describe -/

theorem isOffTopic_of_sum (h : sumPattern.Matches cs) :
  IsOffTopic cs
  := by
  simp only [sumPattern, Pattern.matches_inOrder_cons_iff, Pattern.matches_inOrder_singleton_iff,
    matches_number_iff, matches_blanks_iff, Pattern.matches_one_iff, CharClass.has,
    List.contains_iff_mem] at h
  obtain ⟨left, _, hleft, ⟨gap, _, hgap, ⟨_, _, ⟨sign, hsign, rfl⟩,
    ⟨gap', right, hgap', hright, rfl⟩, rfl⟩, rfl⟩, rfl⟩ := h
  have hsum := IsOffTopic.sum hleft hgap hsign hgap' hright
  exact hsum

theorem sum_matches {left gap gap' right : List Char} {sign : Char} (hleft : IsNumber left)
    (hgap : gap.all Text.isBlank) (hsign : sign ∈ ['+', '-', '*', '/'])
    (hgap' : gap'.all Text.isBlank) (hright : IsNumber right) :
  sumPattern.Matches (left ++ (gap ++ (sign :: (gap' ++ right))))
  := by
  have hone : (Pattern.one (.oneOf ['+', '-', '*', '/'])).Matches [sign] :=
    .one (List.contains_iff_mem.mpr hsign)
  apply (matches_number_iff.mpr hleft).before
  apply (matches_blanks_iff.mpr hgap).before
  apply hone.before
  apply (matches_blanks_iff.mpr hgap').before
  apply Pattern.matches_inOrder_singleton_iff.mpr (matches_number_iff.mpr hright)

theorem isOffTopic_of_joke (h : (atStart jokePattern).Matches cs) :
  IsOffTopic cs
  := by
  obtain ⟨start, rest, hstart, rfl⟩ := Pattern.matches_atStart_iff.mp h
  simp (disch := decide +kernel) only [jokePattern, Pattern.matches_inOrder_cons_iff,
    Pattern.matches_inOrder_singleton_iff, Pattern.matches_maybe_iff, Pattern.matches_word_iff,
    matches_gap_iff] at hstart
  obtain ⟨tell, _, htell, ⟨gap, _, hgap, ⟨whom, _, hwhom, ⟨a, _, ha,
    ⟨gap', joke, hgap', hjoke, rfl⟩, rfl⟩, rfl⟩, rfl⟩, rfl⟩ := hstart
  exact .joke htell hgap hwhom ha hgap' hjoke

theorem joke_matches {tell gap whom a gap' joke : List Char} (htell : Spells tell "tell")
    (hgap : IsGap gap)
    (hwhom : (∃ me space, Spells me "me" ∧ IsGap space ∧ whom = me ++ space) ∨ whom = [])
    (ha : Spells a "a") (hgap' : IsGap gap') (hjoke : Spells joke "joke") :
  jokePattern.Matches (tell ++ (gap ++ (whom ++ (a ++ (gap' ++ joke)))))
  := by
  apply ((Pattern.matches_word_iff (by decide +kernel)).mpr htell).before
  apply (matches_gap_iff.mpr hgap).before
  apply Pattern.Matches.before
  · rw [Pattern.matches_maybe_iff]
    apply hwhom.imp_left
    rintro ⟨me, space, hme, hspace, rfl⟩
    apply ((Pattern.matches_word_iff (by decide +kernel)).mpr hme).before
    apply Pattern.matches_inOrder_singleton_iff.mpr (matches_gap_iff.mpr hspace)
  apply ((Pattern.matches_word_iff (by decide +kernel)).mpr ha).before
  apply (matches_gap_iff.mpr hgap').before
  apply Pattern.matches_inOrder_singleton_iff.mpr
    ((Pattern.matches_word_iff (by decide +kernel)).mpr hjoke)

theorem matches_opening_iff {words : List String} (hwords : words ∈ openings) :
  (atStart (anyOf (words.map word))).Matches cs ↔
    ∃ w ∈ words, ∃ start rest, Spells start w ∧ cs = start ++ rest
  := by
  have hplain : openings.all fun words => words.all fun w => w.toList.all Pattern.isPlain := by
    decide +kernel
  rw [Pattern.matches_atStart_iff]
  simp only [matches_words_iff (List.all_eq_true.mp hplain words hwords)]
  constructor
  · rintro ⟨start, rest, ⟨w, hw, hstart⟩, rfl⟩
    use w, hw, start, rest, hstart
  · rintro ⟨w, hw, start, rest, hstart, rfl⟩
    use start, rest, ⟨w, hw, hstart⟩

theorem matches_greeting_iff :
  (anyOf (greetings.map word)).Matches cs ↔ ∃ w ∈ greetings, Spells cs w
  := matches_words_iff (by decide +kernel)

/-- The gate denies the questions that are off the topic. -/
theorem isDenied_iff :
  isDenied cs = true ↔ IsOffTopic cs
  := by
  simp only [isDenied, denied_eq, List.any_cons, List.any_append, List.any_map, List.any_nil,
    Bool.or_false, Bool.or_eq_true, List.any_eq_true, Function.comp_apply, Pattern.accepts_iff,
    matches_greeting_iff]
  constructor
  · rintro (h | h | ⟨words, hwords, h⟩ | ⟨w, hw, h⟩)
    · apply isOffTopic_of_sum h
    · apply isOffTopic_of_joke h
    · obtain ⟨w, hw, start, rest, hstart, rfl⟩ := (matches_opening_iff hwords).mp h
      exact .opening hwords hw hstart
    · exact .greeting hw h
  · intro h
    cases h with
    | sum hleft hgap hsign hgap' hright =>
      left
      apply sum_matches hleft hgap hsign hgap' hright
    | @joke tell gap whom a gap' joke rest htell hgap hwhom ha hgap' hjoke =>
      right; left
      rw [Pattern.matches_atStart_iff]
      exact ⟨_, rest, joke_matches htell hgap hwhom ha hgap' hjoke, rfl⟩
    | @opening words w cs rest hwords hw hcs =>
      right; right; left
      use words, hwords
      apply (matches_opening_iff hwords).mpr ⟨w, hw, cs, rest, hcs, rfl⟩
    | @greeting w cs hw hcs =>
      right; right; right
      use w, hw

instance (cs : List Char) : Decidable (IsOffTopic cs) :=
  decidable_of_iff (isDenied cs = true) isDenied_iff

/-! ### Questions -/

/-- A question is lowered after the blanks around it have been removed. -/
theorem questionForm_eq (question : String) :
  questionForm question = (Text.lowercase (Text.trim question)).toList
  := by
  rw [questionForm, Text.lowercase, Text.trim, String.toList_ofList, String.toList_ofList]

theorem mentionsAny_iff {terms : List String} :
  mentionsAny terms cs = true ↔ ∃ t ∈ terms, t.toList <:+: cs
  := by
  simp only [mentionsAny, List.any_eq_true, Text.runsIn_iff]

/-- A question that is off the topic is not relevant, whatever else it says, and any other in which
a term that asks for an explanation occurs is relevant to every hadith.  Questions are trimmed and
lowered first. -/
theorem isRelevant_stages (question hadith : String) :
  (IsOffTopic (Text.lowercase (Text.trim question)).toList → isRelevant question hadith = false) ∧
    (¬ IsOffTopic (Text.lowercase (Text.trim question)).toList →
      (∃ term ∈ allowedTerms, term.toList <:+: (Text.lowercase (Text.trim question)).toList) →
        isRelevant question hadith = true)
  := by
  rw [← isDenied_iff, ← mentionsAny_iff, ← questionForm_eq, Bool.not_eq_true]
  constructor
  · intro hdenied
    simp only [isRelevant, hdenied, if_true]
  · intro hdenied hasks
    simp only [isRelevant, hdenied, hasks, Bool.false_eq_true, if_false, if_true]

/-- A request for a joke that asks for an explanation as well is not relevant; a greeting that does
is relevant to any text. -/
theorem isRelevant_stages_mixed :
  isRelevant " TELL  a joke, please explain " "حديث" = false ∧
    isRelevant "Hello, please clarify" "" = true
  := by
  constructor
  · apply (isRelevant_stages " TELL  a joke, please explain " "حديث").1
    rw [← isDenied_iff]
    decide +kernel
  · apply (isRelevant_stages "Hello, please clarify" "").2
    · rw [← isDenied_iff]
      decide +kernel
    · rw [← mentionsAny_iff]
      decide +kernel

end HadithService.Relevance
