import HadithService.Proofs.Json.Drafts
import Mathlib.Data.List.Induction
import Mathlib.Tactic.Use

/-!
# Tokens of a text and of its start

A mark is a bracket, a comma or a colon.  A single symbol ends it, and behind it the reader stands
between tokens, so a text can be cut behind every mark in it (`Token.Reading.exists_of_mark`), and
what comes after the cut changes no token before it (`tokens_append`).  Lists and objects end with
a mark, so they are read at the start of a text exactly if some start of the text spells them
(`Draft.leading?_eq_some_iff`).
-/

namespace HadithService

namespace Token

/-- A bracket, a comma or a colon. -/
def isMark : Token → Bool
  | .openArray => true
  | .closeArray => true
  | .openObject => true
  | .closeObject => true
  | .comma => true
  | .colon => true
  | _ => false

theorem isMark_ofWord (cs : List Char) :
  (ofWord cs).isMark = false
  := by
  fun_cases ofWord cs
  all_goals rfl

theorem isMark_ofNumeral (cs : List Char) :
  (ofNumeral cs).isMark = false
  := by
  fun_cases ofNumeral cs
  all_goals rfl

namespace Reading

/-- A reading after the tokens that were read before it. -/
def onto (r : Reading) (done : List Token) : Reading :=
  ⟨r.done ++ done, r.place⟩

/-! ### Tokens that were read before -/

theorem start_onto (new done : List Token) (x : Symbol) :
  start (new ++ done) x = (start new x).onto done
  := by
  fun_cases start new x
  case case13 => simp [start, onto, *]
  case case14 => simp [start, onto, *]
  case case15 => simp [start, onto, *]
  all_goals rfl

theorem inString_onto (new done : List Token) (t : Content) (x : Symbol) :
  inString (new ++ done) t x = (inString new t x).onto done
  := by
  fun_cases inString new t x
  all_goals simp [inString, onto, *]

theorem inEscape_onto (new done : List Token) (t : Content) (x : Symbol) :
  inEscape (new ++ done) t x = (inEscape new t x).onto done
  := by
  fun_cases inEscape new t x
  all_goals simp [inEscape, onto, *]

theorem inUnit_onto (new done : List Token) (t : Content) (missing value : Nat) (x : Symbol) :
  inUnit (new ++ done) t missing value x = (inUnit new t missing value x).onto done
  := by
  fun_cases inUnit new t missing value x
  all_goals simp [inUnit, onto, *]

/-- What a symbol leads to does not depend on the tokens before it. -/
theorem step_onto (r : Reading) (done : List Token) (x : Symbol) :
  (r.onto done).step x = (r.step x).onto done
  := by
  obtain ⟨new, place⟩ := r
  cases place with
  | between => exact start_onto new done x
  | word cs =>
    cases x with
    | none => exact start_onto (ofWord cs.reverse :: new) done none
    | some c =>
      simp only [step, onto]
      split
      · rfl
      · exact start_onto (ofWord cs.reverse :: new) done (some c)
  | numeral cs =>
    cases x with
    | none => exact start_onto (ofNumeral cs.reverse :: new) done none
    | some c =>
      simp only [step, onto]
      split
      · rfl
      · exact start_onto (ofNumeral cs.reverse :: new) done (some c)
  | string t => exact inString_onto new done t x
  | escape t => exact inEscape_onto new done t x
  | unit t missing value => exact inUnit_onto new done t missing value x
  | lost => rfl

theorem foldl_step_onto (text : List Symbol) (r : Reading) (done : List Token) :
  text.foldl step (r.onto done) = (text.foldl step r).onto done
  := List.foldl_hom (fun r => r.onto done) fun r x => (step_onto r done x)

theorem finish_onto (r : Reading) (done : List Token) :
  (r.onto done).finish = done.reverse ++ r.finish
  := by
  obtain ⟨new, place⟩ := r
  cases place with
  | _ => simp [finish, onto]

/-! ### Cutting a text behind a mark -/

/-- A reading adds nothing to some tokens, or one token, behind which it stands between tokens if it
is a mark. -/
def Adds (r : Reading) (done : List Token) : Prop :=
  r.done = done ∨ ∃ t, r.done = t :: done ∧ (t.isMark → r.place = .between)

theorem adds_start (done : List Token) (x : Symbol) :
  (start done x).Adds done
  := by
  fun_cases start done x
  all_goals simp [Adds, isMark]

theorem adds_inString (done : List Token) (t : Content) (x : Symbol) :
  (inString done t x).Adds done
  := by
  fun_cases inString done t x
  all_goals simp [Adds, isMark]

theorem adds_inEscape (done : List Token) (t : Content) (x : Symbol) :
  (inEscape done t x).Adds done
  := by
  fun_cases inEscape done t x
  all_goals simp [Adds, isMark]

theorem adds_inUnit (done : List Token) (t : Content) (missing value : Nat) (x : Symbol) :
  (inUnit done t missing value x).Adds done
  := by
  fun_cases inUnit done t missing value x
  all_goals simp [Adds, isMark]

/-- A symbol ends a word or a numeral, or nothing, and adds what it adds between tokens. -/
theorem adds_step (r : Reading) (x : Symbol) :
  ∃ ended, (∀ t ∈ ended, t.isMark = false) ∧ (r.step x).Adds (ended ++ r.done)
  := by
  fun_cases step r x
  case case1 => exact ⟨[], by simp, adds_start r.done x⟩
  case case2 => exact ⟨[], by simp, .inl rfl⟩
  case case3 => exact ⟨[ofWord _], by simp [isMark_ofWord], adds_start _ _⟩
  case case4 => exact ⟨[ofWord _], by simp [isMark_ofWord], adds_start _ _⟩
  case case5 => exact ⟨[], by simp, .inl rfl⟩
  case case6 => exact ⟨[ofNumeral _], by simp [isMark_ofNumeral], adds_start _ _⟩
  case case7 => exact ⟨[ofNumeral _], by simp [isMark_ofNumeral], adds_start _ _⟩
  case case8 t _ => exact ⟨[], by simp, adds_inString r.done t x⟩
  case case9 t _ => exact ⟨[], by simp, adds_inEscape r.done t x⟩
  case case10 t missing value _ => exact ⟨[], by simp, adds_inUnit r.done t missing value x⟩
  case case11 => exact ⟨[], by simp, .inl rfl⟩

/-- The tokens of a reading are those that it has read and the one that it has begun, which is no
mark. -/
theorem finish_eq (r : Reading) :
  ∃ begun, (∀ t ∈ begun, t.isMark = false) ∧ r.finish = (begun ++ r.done).reverse
  := by
  fun_cases finish r
  case case1 => exact ⟨[], by simp, rfl⟩
  case case2 => exact ⟨[], by simp, rfl⟩
  case case3 cs _ => exact ⟨[ofWord cs.reverse], by simp [isMark_ofWord], rfl⟩
  case case4 cs _ => exact ⟨[ofNumeral cs.reverse], by simp [isMark_ofNumeral], rfl⟩
  case case5 => exact ⟨[.stray], by simp [isMark], rfl⟩

/-- The reading of a text that has not ended yet. -/
def ofStart (text : List Symbol) : Reading :=
  text.foldl step ⟨[], .between⟩

theorem ofStart_concat (text : List Symbol) (x : Symbol) :
  ofStart (text ++ [x]) = (ofStart text).step x
  := by
  rw [ofStart, List.foldl_append]
  rfl

variable {t : Token} {done pre post : List Token}

/-- A mark is not among tokens that are no marks. -/
theorem exists_of_append_eq {others : List Token} (ht : t.isMark)
    (hothers : ∀ u ∈ others, u.isMark = false) (h : others ++ done = post ++ t :: pre) :
  ∃ between, done = between ++ t :: pre
  := by
  obtain ⟨between, -, hdone⟩ | ⟨rest, hrest, hpre⟩ := List.append_eq_append_iff.mp h
  · exact ⟨between, hdone⟩
  · cases rest with
    | nil => exact ⟨[], hpre.symm⟩
    | cons u rest =>
      cases hpre
      rw [hothers t (by simp [hrest])] at ht
      cases ht

/-- When a mark has been read in a text, some start of the text led to the mark and to nothing
behind it. -/
theorem exists_of_mark (ht : t.isMark) (text : List Symbol)
    (h : (ofStart text).done = post ++ t :: pre) :
  ∃ value rest, text = value ++ rest ∧ ofStart value = ⟨t :: pre, .between⟩
  := by
  induction text using List.reverseRecOn generalizing post with
  | nil => simp [ofStart] at h
  | append_singleton text x ih =>
    have hearlier : ∀ between, (ofStart text).done = between ++ t :: pre →
        ∃ value rest, text ++ [x] = value ++ rest ∧ ofStart value = ⟨t :: pre, .between⟩ := by
      intro between hdone
      obtain ⟨value, rest, rfl, hvalue⟩ := ih hdone
      exact ⟨value, rest ++ [x], by simp, hvalue⟩
    obtain ⟨ended, hended, hsame | ⟨u, hadded, hplace⟩⟩ := adds_step (ofStart text) x
    · rw [ofStart_concat, hsame] at h
      obtain ⟨between, hdone⟩ := exists_of_append_eq ht hended h
      exact hearlier between hdone
    · rw [ofStart_concat, hadded] at h
      cases post with
      | nil =>
        -- the last symbol ended the mark
        obtain ⟨rfl, hpre⟩ := List.cons.inj h
        use text ++ [x], [], by simp
        rw [ofStart_concat, ← hpre, ← hadded, ← hplace ht]
      | cons u post =>
        obtain ⟨between, hdone⟩ := exists_of_append_eq ht hended (List.cons.inj h).2
        exact hearlier between hdone

end Reading

end Token

variable {text value : List Symbol}

/-- Behind a place between tokens the tokens are those of the rest alone. -/
theorem tokens_append {done : List Token}
    (h : Token.Reading.ofStart value = ⟨done, .between⟩) (rest : List Symbol) :
  tokens (value ++ rest) = done.reverse ++ tokens rest
  := by
  have honto : Token.Reading.ofStart value = Token.Reading.onto ⟨[], .between⟩ done := h
  rw [tokens, List.foldl_append, ← Token.Reading.ofStart, honto, Token.Reading.foldl_step_onto,
    Token.Reading.finish_onto, tokens]

/-- A text can be cut behind every mark in it. -/
theorem exists_of_tokens_eq {pre post : List Token} {t : Token} (ht : t.isMark)
    (h : tokens text = pre ++ t :: post) :
  ∃ value rest, text = value ++ rest ∧ ∀ other, tokens (value ++ other) = pre ++ t :: tokens other
  := by
  obtain ⟨begun, hbegun, hfinish⟩ := (Token.Reading.ofStart text).finish_eq
  have hreversed := congrArg List.reverse (hfinish.symm.trans h)
  rw [List.reverse_reverse, List.reverse_append, List.reverse_cons, List.append_assoc,
    List.singleton_append] at hreversed
  obtain ⟨between, hdone⟩ := Token.Reading.exists_of_append_eq ht hbegun hreversed
  obtain ⟨value, rest, htext, hvalue⟩ := Token.Reading.exists_of_mark ht text hdone
  use value, rest, htext
  intro other
  rw [tokens_append hvalue, List.reverse_cons, List.reverse_reverse, List.append_assoc,
    List.singleton_append]

namespace Draft

variable {d : Draft}

/-- A list or an object. -/
def isNested : Draft → Bool
  | .array _ => true
  | .object _ => true
  | _ => false

theorem exists_spelled_eq (h : d.isNested) :
  ∃ inside last, Token.isMark last ∧ d.spelled = inside ++ [last]
  := by
  cases d with
  | array items => exact ⟨_, .closeArray, rfl, rfl⟩
  | object members => exact ⟨_, .closeObject, rfl, rfl⟩
  | _ => cases h

/-- A list or an object is read at the start of a text exactly if some start of the text spells it,
whatever comes after that. -/
theorem leading?_eq_some_iff (h : d.isNested) :
  leading? text = some d ↔ ∃ value rest, text = value ++ rest ∧ Spells value d
  := by
  obtain ⟨inside, last, hlast, hspelled⟩ := exists_spelled_eq h
  constructor
  · intro hleading
    rw [leading?, Option.map_eq_some_iff] at hleading
    obtain ⟨⟨v, after⟩, hrun, rfl⟩ := hleading
    rw [run_eq_some_iff, hspelled, List.append_assoc] at hrun
    obtain ⟨value, rest, htext, htokens⟩ := exists_of_tokens_eq hlast hrun
    use value, rest, htext
    have hvalue := htokens []
    rw [List.append_nil] at hvalue
    rw [Spells, hspelled, hvalue]
    rfl
  · rintro ⟨value, rest, rfl, hvalue⟩
    rw [Spells, hspelled] at hvalue
    -- a start of the value has all of its tokens already, so what follows it follows them
    obtain ⟨start, blanks, rfl, htokens⟩ := exists_of_tokens_eq hlast hvalue
    have hrun :
        run [] .value (tokens (start ++ blanks ++ rest)) = some (d, tokens (blanks ++ rest)) := by
      rw [run_eq_some_iff, List.append_assoc, htokens, hspelled, List.append_assoc,
        List.singleton_append]
    rw [leading?, hrun]
    rfl

end Draft

end HadithService
