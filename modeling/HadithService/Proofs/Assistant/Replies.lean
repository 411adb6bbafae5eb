import HadithService.Assistant.Replies
import HadithService.Proofs.Json.Drafts
import HadithService.Proofs.Json.Structures
import HadithService.Proofs.Text.Blank

/-!
# Explanations from replies

What is read in a reply is what is left of it without blanks and a code fence
(`Explanation.unfenced_iff`), and it is read as an explanation exactly if it is a JSON text of
one (`Explanation.run_decoder_eq_some_iff`).  Every other reply is refused
(`Explanation.ofReply_written`).
-/

namespace HadithService

namespace Explanation

/-! ### Fences -/

variable {cs rest : List Char}

theorem afterFence?_eq_some_iff :
  afterFence? cs = some rest ↔ cs = fence ++ rest
  := by
  rw [afterFence?, Option.ite_none_right_eq_some]
  constructor
  · rintro ⟨hstarts, hrest⟩
    obtain ⟨rest, rfl⟩ := List.isPrefixOf_iff_prefix.mp hstarts
    rw [← Option.some.inj hrest, List.drop_left]
  · rintro rfl
    rw [List.drop_left]
    exact ⟨List.isPrefixOf_iff_prefix.mpr (List.prefix_append _ _), rfl⟩

theorem beforeFence?_eq_some_iff :
  beforeFence? cs = some rest ↔ cs = rest ++ fence
  := by
  rw [beforeFence?, Option.ite_none_right_eq_some]
  constructor
  · rintro ⟨hends, hrest⟩
    obtain ⟨rest, rfl⟩ := List.isSuffixOf_iff_suffix.mp hends
    rw [← Option.some.inj hrest, List.length_append, Nat.add_sub_cancel, List.take_left]
  · rintro rfl
    rw [List.length_append, Nat.add_sub_cancel, List.take_left]
    exact ⟨List.isSuffixOf_iff_suffix.mpr (List.suffix_append _ _), rfl⟩

/-- What stands behind the opening of a fence is left out with the line break after it. -/
theorem afterLine?_append {info : List Char} (hinfo : '\n' ∉ info) (rest : List Char) :
  afterLine? (info ++ '\n' :: rest) = some rest
  := by
  have hskip : (info ++ '\n' :: rest).dropWhile (fun c => c != '\n') = '\n' :: rest := by
    rw [List.dropWhile_append_of_pos, List.dropWhile_cons_of_neg (by simp)]
    intro c hc
    rw [bne_iff_ne]
    rintro rfl
    apply hinfo hc
  rw [afterLine?, hskip]

theorem afterLine?_eq_none (h : '\n' ∉ cs) :
  afterLine? cs = none
  := by
  have hskip : (cs.dropWhile fun c => c != '\n') = [] := by
    apply List.dropWhile_eq_nil_iff.mpr
    intro c hc
    rw [bne_iff_ne]
    rintro rfl
    apply h hc
  rw [afterLine?, hskip]

/-- Nothing but what stands behind an opening fence is left out. -/
theorem IsInfo.getD_afterLine? {info inside : List Char} (h : IsInfo inside info) :
  (afterLine? (info ++ inside)).getD (info ++ inside) = inside
  := by
  cases h with
  | line hline =>
    rw [List.append_assoc, List.singleton_append, afterLine?_append hline]
    rfl
  | none hnone =>
    rw [List.nil_append, afterLine?_eq_none hnone]
    rfl

theorem exists_info (rest : List Char) :
  ∃ info inside, rest = info ++ inside ∧ IsInfo inside info
  := by
  by_cases hbreak : '\n' ∈ rest
  · obtain ⟨info, inside, hrest, hline⟩ := List.eq_append_cons_of_mem hbreak
    use info ++ ['\n'], inside
    constructor
    · simpa using hrest
    · apply IsInfo.line hline
  · use [], rest, rfl
    apply IsInfo.none hbreak

/-- Of a text behind an opening fence that part is left that stands before a closing one. -/
theorem unfence_of_opened {reply info inside : List Char}
    (h : Text.TrimsTo reply (fence ++ info ++ inside)) (hinfo : IsInfo inside info) :
  unfence reply = Text.trimChars ((beforeFence? inside).getD inside)
  := by
  have hopen : afterFence? (Text.trimChars reply) = some (info ++ inside) := by
    rw [Text.trimsTo_iff.mp h, List.append_assoc]
    apply afterFence?_eq_some_iff.mpr rfl
  rw [unfence]
  simp only [hopen, hinfo.getD_afterLine?, h.isTrimmed.trimEnd_right]

/-- What is looked at in a reply is what it contains, and nothing else is. -/
theorem unfenced_iff {reply body : List Char} :
  Unfenced reply body ↔ unfence reply = body
  := by
  constructor
  · intro h
    cases h with
    | bare h hnot =>
      have hnone : afterFence? body = none := by
        rw [afterFence?, if_neg]
        rw [List.isPrefixOf_iff_prefix]
        apply hnot
      rw [unfence, Text.trimsTo_iff.mp h]
      simp only [hnone]
    | opened h hinfo hnot hbody =>
      rw [unfence_of_opened h hinfo, beforeFence?, if_neg, Option.getD_none,
        Text.trimsTo_iff.mp hbody]
      rw [List.isSuffixOf_iff_suffix]
      apply hnot
    | closed h hinfo hbody =>
      rw [unfence_of_opened h hinfo, beforeFence?_eq_some_iff.mpr rfl, Option.getD_some,
        Text.trimsTo_iff.mp hbody]
  · rintro rfl
    cases hopen : afterFence? (Text.trimChars reply) with
    | none =>
      have hbare : unfence reply = Text.trimChars reply := by
        rw [unfence]
        simp only [hopen]
      rw [hbare]
      apply Unfenced.bare (Text.trimsTo_iff.mpr rfl)
      rintro ⟨rest, hrest⟩
      cases hopen.symm.trans (afterFence?_eq_some_iff.mpr hrest.symm)
    | some rest =>
      obtain ⟨info, inside, rfl, hinfo⟩ := exists_info rest
      have h : Text.TrimsTo reply (fence ++ info ++ inside) := by
        rw [Text.trimsTo_iff, List.append_assoc]
        apply afterFence?_eq_some_iff.mp hopen
      rw [unfence_of_opened h hinfo]
      cases hclose : beforeFence? inside with
      | none =>
        apply Unfenced.opened h hinfo _ (Text.trimsTo_iff.mpr rfl)
        rintro ⟨held, hheld⟩
        cases hclose.symm.trans (beforeFence?_eq_some_iff.mpr hheld.symm)
      | some held =>
        obtain rfl := beforeFence?_eq_some_iff.mp hclose
        apply Unfenced.closed h hinfo (Text.trimsTo_iff.mpr rfl)

/-- What is looked at has no blanks around it. -/
theorem isTrimmed_unfence (reply : List Char) :
  Text.IsTrimmed (unfence reply)
  := by
  cases unfenced_iff.mpr (rfl : unfence reply = _) with
  | bare h _ => exact h.isTrimmed
  | opened _ _ _ hbody => exact hbody.isTrimmed
  | closed _ _ hbody => exact hbody.isTrimmed

/-! ### Explanations -/

variable {d : Draft} {e : Explanation}

theorem fields_eq_some_iff (f : Fields) :
  (do
    let summary ← f.required "summary" Decoder.text
    let explanation ← f.required "explanation" Decoder.text
    let keywords ← f.required "keywords" (Decoder.list Decoder.text)
    return ⟨summary, explanation, keywords⟩) = some e ↔
    f.required "summary" Decoder.text = some e.summary ∧
      f.required "explanation" Decoder.text = some e.explanation ∧
      f.required "keywords" (Decoder.list Decoder.text) = some e.keywords
  := by
  simp only [Option.bind_eq_bind, Option.bind_eq_some_iff, Option.pure_def, Option.some.injEq]
  constructor
  · rintro ⟨_, hsummary, _, hexplanation, _, hkeywords, rfl⟩
    exact ⟨hsummary, hexplanation, hkeywords⟩
  · rintro ⟨hsummary, hexplanation, hkeywords⟩
    exact ⟨_, hsummary, _, hexplanation, _, hkeywords, rfl⟩

/-- What is read of the fields of an object is what the only members with their names are. -/
theorem fields_object_iff {levels : Nat} {members : List (String × Draft)}
    (hsingle : ∀ name ∈ ["summary", "explanation", "keywords"],
      (Draft.valuesOf members name).length ≤ 1) :
  let f : Fields := ⟨levels + 1, false,
    members.filter fun m => ["summary", "explanation", "keywords"].contains m.1⟩
  (f.required "summary" Decoder.text = some e.summary ∧
    f.required "explanation" Decoder.text = some e.explanation ∧
    f.required "keywords" (Decoder.list Decoder.text) = some e.keywords) ↔
    Draft.valuesOf members "summary" = [.string (some e.summary)] ∧
      Draft.valuesOf members "explanation" = [.string (some e.explanation)] ∧
      Draft.valuesOf members "keywords" = [Draft.ofTexts e.keywords]
  := by
  simp only [Fields.required, Option.bind_eq_some_iff, Decoder.text_eq_some_iff,
    Decoder.list_text_eq_some_iff, exists_eq_right]
  rw [Fields.find_eq_some_iff (by simp) (hsingle _ (by simp)),
    Fields.find_eq_some_iff (by simp) (hsingle _ (by simp)),
    Fields.find_eq_some_iff (by simp) (hsingle _ (by simp))]

/-- A draft is read as an explanation exactly if it is one. -/
theorem run_decoder_eq_some_iff :
  decoder.run d = some e ↔ IsWritten e d
  := by
  rw [Decoder.run, decoder, Draft.maxLevels, Decoder.structured_eq_some_iff]
  simp only [fields_eq_some_iff]
  constructor
  · rintro (⟨members, rfl, hsingle, hread⟩ | ⟨items, rfl, hlength, hread⟩)
    · obtain ⟨hsummary, hexplanation, hkeywords⟩ := (fields_object_iff hsingle).mp hread
      exact .object hsummary hexplanation hkeywords
    · obtain ⟨hsummary, hexplanation, hkeywords⟩ := hread
      match items, hlength with
      | [], _ => cases hsummary
      | [summary], _ => cases hexplanation
      | [summary, explanation], _ => cases hkeywords
      | [summary, explanation, keywords], _ =>
        obtain rfl := Decoder.text_eq_some_iff.mp hsummary
        obtain rfl := Decoder.text_eq_some_iff.mp hexplanation
        obtain rfl := Decoder.list_text_eq_some_iff.mp hkeywords
        exact .list
  · intro h
    cases h with
    | @object members hsummary hexplanation hkeywords =>
      have hsingle : ∀ name ∈ ["summary", "explanation", "keywords"],
          (Draft.valuesOf members name).length ≤ 1 := by
        simp [hsummary, hexplanation, hkeywords]
      exact .inl ⟨members, rfl, hsingle,
        (fields_object_iff hsingle).mpr ⟨hsummary, hexplanation, hkeywords⟩⟩
    | list =>
      exact .inr ⟨_, rfl, Nat.le_refl 3, rfl, rfl, Decoder.list_text_eq_some_iff.mpr rfl⟩

theorem read_eq_some_iff {text : List Char} :
  (Draft.whole? (text.map some)).bind decoder.run = some e ↔ e.IsText text
  := by
  simp only [Option.bind_eq_some_iff, Draft.whole?_eq_some_iff, run_decoder_eq_some_iff, IsText]

theorem hasContent_iff :
  e.HasContent ↔ (e.summary.isEmpty && e.explanation.isEmpty) = false
  := by
  rw [HasContent, Bool.and_eq_false_iff, String.isEmpty_eq_false_iff, String.isEmpty_eq_false_iff]

/-- A reply is an explanation exactly if what is left of it without the blanks around it and without
a code fence is a JSON text of one, either an object or a list, and after sanitizing there is
something in its summary or in its explanation.  A reply of which nothing is left, one without such
a text and one without such content are refused, each for its own reason. -/
theorem ofReply_written (reply : String) :
  ∃ body, Unfenced reply.toList body ∧ Text.IsTrimmed body ∧
    (∀ e, ofReply reply = .ok e ↔
      ∃ p : Explanation, p.IsText body ∧ p.sanitized.HasContent ∧ e = p.sanitized) ∧
    (ofReply reply = .error .emptyReply ↔ body = []) ∧
    (ofReply reply = .error .unreadable ↔ body ≠ [] ∧ ∀ p : Explanation, ¬ p.IsText body) ∧
    (ofReply reply = .error .noContent ↔
      ∃ p : Explanation, p.IsText body ∧ ¬ p.sanitized.HasContent)
  := by
  use unfence reply.toList, unfenced_iff.mpr rfl, isTrimmed_unfence reply.toList
  simp only [← read_eq_some_iff, hasContent_iff]
  rw [ofReply]
  generalize unfence reply.toList = body
  have hnothing : body = [] → (Draft.whole? (body.map some)).bind decoder.run = none := by
    rintro rfl
    rfl
  generalize (Draft.whole? (body.map some)).bind decoder.run = read at hnothing ⊢
  cases body with
  | nil =>
    rw [hnothing rfl]
    simp
  | cons c body =>
    cases read with
    | none => simp
    | some p =>
      simp only [List.isEmpty_cons, Bool.false_eq_true, if_false, Option.some.injEq,
        exists_eq_left', forall_eq', and_false, iff_false, reduceCtorEq, not_false_eq_true, ne_eq]
      cases p.sanitized.summary.isEmpty && p.sanitized.explanation.isEmpty with
      | true => simp
      | false => simp [eq_comm]

/-- A list of the three values passes, though no object is spelled in the reply. -/
theorem listed_reply_passes :
  ofReply "[\"s\",\"e\",[]]" = .ok ⟨"s", "e", []⟩ ∧
    ∀ members,
      ¬ Draft.Spells ((unfence "[\"s\",\"e\",[]]".toList).map some) (.object members)
  := by
  constructor
  · rfl
  · intro members hspells
    have hread := Draft.whole?_eq_some_iff.mpr hspells
    cases hread

end Explanation

end HadithService
