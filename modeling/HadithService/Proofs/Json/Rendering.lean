import HadithService.Proofs.Json.Numerals
import HadithService.Proofs.Json.Tokens

/-!
# Tokens of values as they are written

The text of a JSON value is cut into the tokens of the draft it stands for, whatever comes after it,
as long as that does not go on with a word or a numeral (`Json.Spells`).  So a text that is written
for a value is read as its draft and nothing else (`Json.Spells.whole?_render`).
-/

namespace HadithService

namespace Token

/-! ### Strings -/

theorem hexValue?_hexDigit (n : Nat) :
  hexValue? (hexDigit n) = some (n % 16)
  := by
  have hall : ∀ k : Fin 16, hexValue? (Nat.digitChar k) = some k := by decide
  exact hall ⟨n % 16, Nat.mod_lt n (by decide)⟩

/-- The content of a string of which some characters have been read, the last one first. -/
def Content.ofRead (cs : List Char) : Content :=
  ⟨some cs, none⟩

theorem Content.putUnit_ofRead {c : Char} (cs : List Char) (hc : c.toNat < 0xd800) :
  (ofRead cs).putUnit c.toNat = ofRead (c :: cs)
  := by
  have hlead : ¬ 0xd800 ≤ c.toNat := by omega
  have htrail : ¬ 0xdc00 ≤ c.toNat := by omega
  simp [putUnit, ofRead, put, hlead, htrail]

/-- What stands for a character in a string is read as the character. -/
theorem Reading.foldl_escapedChar (done : List Token) (cs : List Char) (c : Char) :
  ((escapedChar c).map some).foldl step ⟨done, .string (.ofRead cs)⟩
    = ⟨done, .string (.ofRead (c :: cs))⟩
  := by
  fun_cases escapedChar c
  -- a control character without a letter of its own
  case case8 hcontrol =>
    have hunit : c.toNat / 16 % 16 * 16 + c.toNat % 16 = c.toNat := by omega
    have hput := Content.putUnit_ofRead cs (show c.toNat < 0xd800 by omega)
    have hhigh := hexValue?_hexDigit (c.toNat / 16)
    have hlow := hexValue?_hexDigit c.toNat
    have hzero : hexValue? '0' = some 0 := rfl
    simp [step, inString, inEscape, inUnit, hzero, hhigh, hlow, hunit, hput]
  -- a character that stands for itself
  case case9 hquote hslash _ _ _ _ _ hcontrol =>
    have hchar : (c == '"') = false := by simpa using hquote
    have hescape : (c == '\\') = false := by simpa using hslash
    simp [step, inString, hchar, hescape, hcontrol, Content.ofRead, Content.put]
  all_goals rfl

theorem Reading.foldl_escapedChars (done : List Token) (cs text : List Char) :
  ((text.flatMap escapedChar).map some).foldl step ⟨done, .string (.ofRead cs)⟩
    = ⟨done, .string (.ofRead (text.reverse ++ cs))⟩
  := by
  induction text generalizing cs with
  | nil => rfl
  | cons c text ih =>
    rw [List.flatMap_cons, List.map_append, List.foldl_append, foldl_escapedChar, ih,
      List.reverse_cons, List.append_assoc, List.singleton_append]

/-- A string that has been written is read as one token. -/
theorem Reading.ofStart_renderString (s : String) :
  ofStart ((renderString s).map some) = ⟨[.string (some s)], .between⟩
  := by
  have hquote : step ⟨[], .between⟩ (some '"') = ⟨[], .string (.ofRead [])⟩ := rfl
  rw [ofStart, renderString, List.cons_append, List.map_cons, List.foldl_cons, hquote,
    List.map_append, List.foldl_append, foldl_escapedChars, List.append_nil]
  simp [step, inString, Content.ofRead, Content.text?]

/-! ### Words and numerals -/

/-- What does not go on with a word or a numeral before it. -/
def IsApart (rest : List Symbol) : Prop :=
  ∀ c, rest.head? = some (some c) → c.isLower = false ∧ inNumeral c = false

theorem isApart_nil :
  IsApart []
  := by
  rintro c ⟨⟩

theorem isApart_cons {c : Char} (hlower : c.isLower = false) (hnumeral : inNumeral c = false)
    (rest : List Symbol) :
  IsApart (some c :: rest)
  := by
  rintro c ⟨⟩
  use hlower, hnumeral

namespace Reading

/-- A reading in which the word or the numeral that has begun is complete. -/
def ended (r : Reading) : Reading :=
  match r.place with
  | .word cs => ⟨ofWord cs.reverse :: r.done, .between⟩
  | .numeral cs => ⟨ofNumeral cs.reverse :: r.done, .between⟩
  | _ => r

theorem finish_ended (r : Reading) :
  r.ended.finish = r.finish
  := by
  obtain ⟨done, place⟩ := r
  cases place with
  | _ => rfl

theorem step_ended {r : Reading} {x : Symbol}
    (hx : ∀ c, x = some c → c.isLower = false ∧ inNumeral c = false) :
  r.ended.step x = r.step x
  := by
  obtain ⟨done, place⟩ := r
  cases place with
  | word cs =>
    cases x with
    | none => rfl
    | some c => simp [ended, step, (hx c rfl).1]
  | numeral cs =>
    cases x with
    | none => rfl
    | some c => simp [ended, step, (hx c rfl).2]
  | _ => rfl

/-- A word or a numeral that nothing goes on with is complete. -/
theorem finish_foldl_ended {rest : List Symbol} (hrest : IsApart rest) (r : Reading) :
  (rest.foldl step r.ended).finish = (rest.foldl step r).finish
  := by
  cases rest with
  | nil => apply finish_ended
  | cons x rest =>
    have hx : ∀ c, x = some c → c.isLower = false ∧ inNumeral c = false :=
      fun c hc => hrest c (congrArg some hc)
    rw [List.foldl_cons, List.foldl_cons, step_ended hx]

theorem start_digit {d : Char} (done : List Token) (hd : d.isDigit = true) :
  start done (some d) = ⟨done, .numeral [d]⟩
  := by
  have hne : ∀ c, c.isDigit = false → d ≠ c := by
    rintro c hc rfl
    cases hd.symm.trans hc
  simp [start, hd, hne ' ' rfl, hne '\t' rfl, hne '\n' rfl, hne '\r' rfl, hne '[' rfl, hne ']' rfl,
    hne '\x7b' rfl, hne '\x7d' rfl, hne ',' rfl, hne ':' rfl, hne '"' rfl]

theorem foldl_digits (done : List Token) (cs : List Char) {ds : List Char}
    (hds : ∀ d ∈ ds, d.isDigit = true) :
  (ds.map some).foldl step ⟨done, .numeral cs⟩ = ⟨done, .numeral (ds.reverse ++ cs)⟩
  := by
  induction ds generalizing cs with
  | nil => rfl
  | cons d ds ih =>
    have hd : inNumeral d = true := by simp [inNumeral, hds d List.mem_cons_self]
    have hstep : step ⟨done, .numeral cs⟩ (some d) = ⟨done, .numeral (d :: cs)⟩ := by
      simp [step, hd]
    rw [List.map_cons, List.foldl_cons, hstep, ih _ fun d hd => hds d (List.mem_cons_of_mem _ hd),
      List.reverse_cons, List.append_assoc, List.singleton_append]

theorem ended_digits (n : Nat) :
  (ofStart ((Decimal.digits n).map some)).ended = ⟨[.number (.ofNat n)], .between⟩
  := by
  have hds : ∀ d ∈ Decimal.digits n, d.isDigit = true := fun d => Decimal.isDigit_of_mem_digits
  have hread : ofStart ((Decimal.digits n).map some)
      = ⟨[], .numeral (Decimal.digits n).reverse⟩ := by
    cases hcs : Decimal.digits n with
    | nil => cases Nat.toDigits_ne_nil hcs
    | cons d ds =>
      rw [hcs] at hds
      have hfirst : step ⟨[], .between⟩ (some d) = ⟨[], .numeral [d]⟩ :=
        start_digit [] (hds d List.mem_cons_self)
      rw [ofStart, List.map_cons, List.foldl_cons, hfirst,
        foldl_digits _ _ fun d hd => hds d (List.mem_cons_of_mem _ hd), List.reverse_cons]
  simp [hread, ended, ofNumeral, Numeral.ofChars?_digits]

end Reading

end Token

open Token

variable {value rest : List Symbol}

/-- Behind a part that is complete as it stands, or completed by what comes next, the tokens are
those of the rest alone. -/
theorem tokens_append_of_ended {done : List Token}
    (h : (Reading.ofStart value).ended = ⟨done, .between⟩) (hrest : IsApart rest) :
  tokens (value ++ rest) = done.reverse ++ tokens rest
  := by
  have honto : (Reading.ofStart value).ended = Reading.onto ⟨[], .between⟩ done := h
  rw [tokens, List.foldl_append, ← Reading.ofStart, ← Reading.finish_foldl_ended hrest, honto,
    Reading.foldl_step_onto, Reading.finish_onto, tokens]

/-- A mark is read as a token of its own. -/
theorem tokens_mark {c : Char} {t : Token} (h : Reading.start [] (some c) = ⟨[t], .between⟩)
    (rest : List Symbol) :
  tokens (some c :: rest) = t :: tokens rest
  := by
  have hvalue : Reading.ofStart [some c] = ⟨[t], .between⟩ := h
  rw [← List.singleton_append, tokens_append hvalue]
  rfl

theorem tokens_renderString (s : String) (rest : List Symbol) :
  tokens ((renderString s).map some ++ rest) = .string (some s) :: tokens rest
  := by
  rw [tokens_append (Reading.ofStart_renderString s)]
  rfl

namespace Json

/-- A value is written with the tokens of a draft, whatever comes after it, as long as that does not
go on with a word or a numeral. -/
def Spells (v : Json) (d : Draft) : Prop :=
  ∀ rest, IsApart rest → tokens (v.renderChars.map some ++ rest) = d.spelled ++ tokens rest

namespace Spells

variable {v : Json} {d : Draft} {t : Token}

/-- A value whose text is one token, at the latest when the text ends. -/
theorem of_ended (hd : d.spelled = [t])
    (h : (Reading.ofStart (v.renderChars.map some)).ended = ⟨[t], .between⟩) :
  Spells v d
  := by
  intro rest hrest
  rw [tokens_append_of_ended h hrest, hd]
  rfl

theorem null :
  Spells .null .null
  := of_ended rfl rfl

theorem bool (b : Bool) :
  Spells (.bool b) (.bool b)
  := by
  cases b with
  | false => exact of_ended rfl rfl
  | true => exact of_ended rfl rfl

theorem ofNat (n : Nat) :
  Spells (.ofNat n) (.number (.ofNat n))
  := of_ended rfl (Reading.ended_digits n)

theorem string (s : String) :
  Spells (.string s) (.string (some s))
  := fun rest _ => tokens_renderString s rest

/-! ### Objects -/

/-- The members of an object are written with the tokens of its members. -/
theorem members {ms : List (String × Json)} {ds : List (String × Draft)}
    (h : List.Forall₂ (fun m d => m.1 = d.1 ∧ m.2.Spells d.2) ms ds) (rest : List Symbol) :
  tokens ((renderMembers ms).map some ++ some '\x7d' :: rest)
    = Draft.spelledMembers (ds.map fun d => (some d.1, d.2)) ++ .closeObject :: tokens rest
  := by
  have hclose : tokens (some '\x7d' :: rest) = .closeObject :: tokens rest := tokens_mark rfl rest
  induction h with
  | nil => exact hclose
  | @cons m d ms ds hm hms ih =>
    obtain ⟨name, v⟩ := m
    obtain ⟨name', d⟩ := d
    obtain ⟨rfl, hv⟩ := hm
    have hcolon : ∀ rest, tokens (some ':' :: rest) = .colon :: tokens rest := tokens_mark rfl
    have hcomma : ∀ rest, tokens (some ',' :: rest) = .comma :: tokens rest := tokens_mark rfl
    cases hms with
    | nil =>
      have hlast := hv (some '\x7d' :: rest) (isApart_cons rfl rfl rest)
      simp [renderMembers, Draft.spelledMembers, tokens_renderString, hcolon, hlast, hclose]
    | cons hnext hms =>
      have hmore := fun rest => hv (some ',' :: rest) (isApart_cons rfl rfl rest)
      rw [renderMembers]
      simp only [List.isEmpty_cons, Bool.false_eq_true, if_false, List.append_assoc,
        List.cons_append, List.nil_append, List.map_append, List.map_cons, tokens_renderString,
        hcolon, hmore, hcomma, ih, Draft.spelledMembers]

theorem object {ms : List (String × Json)} {ds : List (String × Draft)}
    (h : List.Forall₂ (fun m d => m.1 = d.1 ∧ m.2.Spells d.2) ms ds) :
  Spells (.object ms) (Draft.ofMembers ds)
  := by
  intro rest _
  have hopen : ∀ rest, tokens (some '\x7b' :: rest) = .openObject :: tokens rest := tokens_mark rfl
  simp [renderChars, Draft.ofMembers, Draft.spelled, hopen, members h]

/-- The text of a value is read as its draft and nothing else. -/
theorem whole?_render (h : v.Spells d) :
  Draft.whole? (Symbol.ofText v.render) = some d
  := by
  have htokens := h [] isApart_nil
  rw [List.append_nil] at htokens
  rw [Draft.whole?_eq_some_iff, Draft.Spells, Symbol.ofText, render, String.toList_ofList, htokens]
  apply List.append_nil

end Spells

end Json

end HadithService
