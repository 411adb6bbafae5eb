import HadithService.Proofs.Assistant.Replies

/-!
# Replies in code fences

A model may put its answer into a code fence, with the name of a language behind the opening.  A
fenced answer is read exactly as the answer alone (`Explanation.ofReply_fenced`), whatever it
contains, unless it starts with a fence of its own.
-/

namespace HadithService.Explanation

variable {before after info body : List Char}

/-- A text in a code fence, with something behind the opening. -/
def fenced (info body : String) : String :=
  "```" ++ info ++ "\n" ++ body ++ "\n" ++ "```"

theorem toList_fenced (info body : String) :
  (fenced info body).toList
    = fence ++ (info.toList ++ '\n' :: (body.toList ++ ['\n'] ++ fence))
  := by
  simp [fenced, fence]

/-- What ends with a fence does not end with a blank. -/
theorem last_of_fence (cs : List Char) :
  ∀ c ∈ (cs ++ fence).getLast?, Text.isBlank c = false
  := by
  have hlast : (cs ++ fence).getLast? = some '`' := by
    rw [List.getLast?_append]
    rfl
  intro c hc
  rw [hlast] at hc
  cases hc
  rfl

theorem isTrimmed_between_fences (cs : List Char) :
  Text.IsTrimmed (fence ++ (cs ++ fence))
  := by
  constructor
  · intro c hc
    cases hc
    rfl
  · rw [← List.append_assoc]
    apply last_of_fence

/-- Of a fenced text the text is left, without the blanks around it. -/
theorem unfence_fenced (hbefore : before.all Text.isBlank) (hinfo : '\n' ∉ info)
    (hafter : after.all Text.isBlank) (body : List Char) :
  unfence (before ++ (fence ++ (info ++ '\n' :: (body ++ ['\n'] ++ fence))) ++ after)
    = Text.trimChars body
  := by
  have hblock : fence ++ (info ++ '\n' :: (body ++ ['\n'] ++ fence))
      = fence ++ (info ++ ['\n']) ++ (body ++ ['\n'] ++ fence) := by
    simp
  have hbody : Text.TrimsTo (body ++ ['\n']) (Text.trimChars body) := by
    have hbreak := Text.trimChars_surrounded (rfl : [].all Text.isBlank)
      (rfl : ['\n'].all Text.isBlank) body
    apply Text.trimsTo_iff.mpr hbreak
  apply unfenced_iff.mp
  apply Unfenced.closed _ (IsInfo.line hinfo) hbody
  use before, after
  rw [hblock]
  use rfl, hbefore, hafter
  have hends := isTrimmed_between_fences (info ++ ['\n'] ++ (body ++ ['\n']))
  simpa only [List.append_assoc] using hends

/-- A text that does not start with a fence is only trimmed. -/
theorem unfence_of_bare (hbare : ¬ fence <+: Text.trimChars body) :
  unfence body = Text.trimChars body
  := unfenced_iff.mp (Unfenced.bare (Text.trimsTo_iff.mpr rfl) hbare)

theorem ofReply_congr {reply reply' : String}
    (h : unfence reply.toList = unfence reply'.toList) :
  ofReply reply = ofReply reply'
  := by
  rw [ofReply, ofReply, h]

/-- A text in a code fence, with blanks around it, is read as the text alone, and refused for the
same reason, unless the text starts with a fence itself. -/
theorem ofReply_fenced (before info body after : String)
    (hbefore : Text.isBlankText before = true) (hinfo : '\n' ∉ info.toList)
    (hbare : ¬ fence <+: (Text.trim body).toList)
    (hafter : Text.isBlankText after = true) :
  ofReply (before ++ fenced info body ++ after) = ofReply body
  := by
  apply ofReply_congr
  rw [Text.trim, String.toList_ofList] at hbare
  rw [unfence_of_bare hbare, String.toList_append, String.toList_append, toList_fenced,
    unfence_fenced hbefore hinfo hafter]

/-- An explanation, nothing and a text that ends with a fence, each in a code fence. -/
theorem ofReply_fenced_three :
  ofReply (" \n" ++ fenced "json `" "\n[\"s\",\"e\",[]] " ++ "\n") = .ok ⟨"s", "e", []⟩ ∧
    ofReply ("" ++ fenced "" "" ++ "") = .error .emptyReply ∧
    ofReply ("" ++ fenced "" "{}\n```" ++ "") = .error .unreadable
  := by
  constructor
  · rw [ofReply_fenced " \n" "json `" "\n[\"s\",\"e\",[]] " "\n" rfl (by decide +kernel)
      (by decide +kernel) rfl]
    rfl
  constructor
  · rw [ofReply_fenced "" "" "" "" rfl (by decide +kernel) (by decide +kernel) rfl]
    rfl
  · rw [ofReply_fenced "" "" "{}\n```" "" rfl (by decide +kernel) (by decide +kernel) rfl]
    rfl

end HadithService.Explanation
