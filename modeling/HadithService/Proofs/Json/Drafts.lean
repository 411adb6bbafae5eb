import HadithService.Json.Spelling

/-!
# Drafts from tokens

The reader of drafts takes one token after the other and keeps what it has opened on a stack.
What it has taken so far is what the stack spells (`Draft.Reached`), so it gives a draft exactly if
the tokens begin with those of the draft (`Draft.run_eq_some_iff`), and a text is read as a draft
exactly if it spells it (`Draft.whole?_eq_some_iff`).
-/

namespace HadithService.Draft

/-- The tokens of a member. -/
def spelledMember (m : Option String × Draft) : List Token :=
  .string m.1 :: .colon :: m.2.spelled

theorem spelledItems_concat (items : List Draft) (d : Draft) :
  spelledItems (items ++ [d]) = (items.flatMap fun e => e.spelled ++ [.comma]) ++ d.spelled
  := by
  induction items with
  | nil => simp [spelledItems]
  | cons e items ih => simp [spelledItems, ih]

theorem spelledMembers_concat (members : List (Option String × Draft))
    (m : Option String × Draft) :
  spelledMembers (members ++ [m])
    = (members.flatMap fun n => spelledMember n ++ [.comma]) ++ spelledMember m
  := by
  induction members with
  | nil => simp [spelledMembers, spelledMember]
  | cons n members ih => simp [spelledMembers, spelledMember, ih]

/-! ### What has been taken -/

/-- The tokens that lead to an open list or object that waits for its next part. -/
def Frame.taken : Frame → List Token
  | .items done => .openArray :: done.reverse.flatMap fun d => d.spelled ++ [.comma]
  | .members done => .openObject :: done.reverse.flatMap fun m => spelledMember m ++ [.comma]
  | .named done name =>
    (.openObject :: done.reverse.flatMap fun m => spelledMember m ++ [.comma])
      ++ [.string name, .colon]

/-- The tokens that lead to a stack that waits for the next part of its top. -/
def taken (stack : List Frame) : List Token :=
  stack.reverse.flatMap Frame.taken

@[simp]
theorem taken_cons (f : Frame) (stack : List Frame) :
  taken (f :: stack) = taken stack ++ f.taken
  := by
  simp [taken]

/-- Whether a list or an object can take a value. -/
def Frame.isOpen : Frame → Bool
  | .members _ => false
  | _ => true

/-- The tokens that have been taken when the reader has come to a stack and wants something. -/
inductive Reached : List Frame → Want → List Token → Prop where
  | value {stack : List Frame} (h : stack.all Frame.isOpen) : Reached stack .value (taken stack)
  | itemOrEnd {stack : List Frame} (h : stack.all Frame.isOpen) :
    Reached (.items [] :: stack) .itemOrEnd (taken (.items [] :: stack))
  | nameOrEnd {stack : List Frame} (h : stack.all Frame.isOpen) :
    Reached (.members [] :: stack) .nameOrEnd (taken (.members [] :: stack))
  | name {stack : List Frame} (h : stack.all Frame.isOpen) (done : List (Option String × Draft)) :
    Reached (.members done :: stack) .name (taken (.members done :: stack))
  | colon {stack : List Frame} (h : stack.all Frame.isOpen) (done : List (Option String × Draft))
    (name : Option String) :
    Reached (.members done :: stack) (.colon name)
      (taken (.members done :: stack) ++ [.string name])
  | item {stack : List Frame} (h : stack.all Frame.isOpen) (d : Draft) (done : List Draft) :
    Reached (.items (d :: done) :: stack) .separator (taken (.items done :: stack) ++ d.spelled)
  | member {stack : List Frame} (h : stack.all Frame.isOpen) (m : Option String × Draft)
    (done : List (Option String × Draft)) :
    Reached (.members (m :: done) :: stack) .separator
      (taken (.members done :: stack) ++ spelledMember m)

variable {d : Draft} {stack : List Frame} {want : Want} {t : Token} {before rest ts : List Token}

/-- What a step may lead to when certain tokens have been taken with it. -/
def Progress.Sound (before : List Token) : Progress → Prop
  | .going stack want => Reached stack want before
  | .complete d => before = d.spelled
  | .failed => True

theorem sound_deliver (h : stack.all Frame.isOpen) (d : Draft) :
  (deliver d stack).Sound (taken stack ++ d.spelled)
  := by
  cases stack with
  | nil => simp [deliver, Progress.Sound, taken]
  | cons f stack =>
    rw [List.all_cons, Bool.and_eq_true] at h
    cases f with
    | items done => exact .item h.2 d done
    | members done => cases h.1
    | named done name =>
      have hmember := Reached.member h.2 (name, d) done
      rw [deliver, Progress.Sound]
      simpa [Frame.taken, spelledMember] using hmember

theorem sound_beginValue (h : stack.all Frame.isOpen) (t : Token) :
  (beginValue stack t).Sound (taken stack ++ [t])
  := by
  cases t with
  | openArray =>
    have hopened := Reached.itemOrEnd h
    rw [taken_cons] at hopened
    exact hopened
  | openObject =>
    have hopened := Reached.nameOrEnd h
    rw [taken_cons] at hopened
    exact hopened
  | null => exact sound_deliver h .null
  | bool b => exact sound_deliver h (.bool b)
  | number n => exact sound_deliver h (.number n)
  | string s => exact sound_deliver h (.string s)
  | _ => exact trivial

/-- A bracket that closes a list completes it. -/
theorem sound_closeArray (h : stack.all Frame.isOpen) (items : List Draft) :
  (deliver (.array items) stack).Sound
    (taken stack ++ .openArray :: spelledItems items ++ [.closeArray])
  := by
  have hdelivered := sound_deliver h (.array items)
  rw [spelled, ← List.append_assoc] at hdelivered
  exact hdelivered

/-- A bracket that closes an object completes it. -/
theorem sound_closeObject (h : stack.all Frame.isOpen) (members : List (Option String × Draft)) :
  (deliver (.object members) stack).Sound
    (taken stack ++ .openObject :: spelledMembers members ++ [.closeObject])
  := by
  have hdelivered := sound_deliver h (.object members)
  rw [spelled, ← List.append_assoc] at hdelivered
  exact hdelivered

/-- No token that is taken leads astray. -/
theorem sound_step (h : Reached stack want before) (t : Token) :
  (step stack want t).Sound (before ++ [t])
  := by
  cases h with
  | value h => exact sound_beginValue h t
  | @itemOrEnd stack h =>
    cases t with
    | closeArray =>
      have hclosed := sound_closeArray h []
      rw [taken_cons]
      exact hclosed
    | _ =>
      -- what does not close the list begins its first item
      have hopened : (Frame.items [] :: stack).all Frame.isOpen := h
      exact sound_beginValue hopened _
  | nameOrEnd h =>
    cases t with
    | closeObject =>
      have hclosed := sound_closeObject h []
      rw [taken_cons]
      exact hclosed
    | string s => exact .colon h [] s
    | _ => exact trivial
  | name h done =>
    cases t with
    | string s => exact .colon h done s
    | _ => exact trivial
  | @colon stack h done name =>
    cases t with
    | colon =>
      have hopened : (Frame.named done name :: stack).all Frame.isOpen := h
      have hnamed := Reached.value hopened
      simpa [step, Progress.Sound, Frame.taken] using hnamed
    | _ => exact trivial
  | @item stack h d done =>
    cases t with
    | comma =>
      have hopened : (Frame.items (d :: done) :: stack).all Frame.isOpen := h
      have hnext := Reached.value hopened
      simpa [step, afterPart, Progress.Sound, Frame.taken] using hnext
    | closeArray =>
      have hclosed := sound_closeArray h (d :: done).reverse
      rw [List.reverse_cons, spelledItems_concat] at hclosed
      simpa [step, afterPart, Frame.taken] using hclosed
    | _ => exact trivial
  | @member stack h m done =>
    cases t with
    | comma =>
      have hnext := Reached.name h (m :: done)
      simpa [step, afterPart, Progress.Sound, Frame.taken] using hnext
    | closeObject =>
      have hclosed := sound_closeObject h (m :: done).reverse
      rw [List.reverse_cons, spelledMembers_concat] at hclosed
      simpa [step, afterPart, Frame.taken] using hclosed
    | _ => exact trivial

/-- The tokens before and in a draft that has been read are those of the draft. -/
theorem eq_of_run (h : Reached stack want before) (hrun : run stack want ts = some (d, rest)) :
  before ++ ts = d.spelled ++ rest
  := by
  induction ts generalizing stack want before with
  | nil => cases hrun
  | cons t ts ih =>
    have hsound := sound_step h t
    rw [run] at hrun
    cases hstep : step stack want t with
    | going stack' want' =>
      rw [hstep] at hsound hrun
      rw [List.append_cons]
      apply ih hsound hrun
    | complete v =>
      rw [hstep] at hsound hrun
      cases hrun
      rw [List.append_cons, hsound]
    | failed =>
      rw [hstep] at hrun
      cases hrun

/-! ### Reading what is spelled -/

/-- What follows a step. -/
def goOn : Progress → List Token → Option (Draft × List Token)
  | .going stack want, rest => run stack want rest
  | .complete d, rest => some (d, rest)
  | .failed, _ => none

theorem run_cons (stack : List Frame) (want : Want) (t : Token) (rest : List Token) :
  run stack want (t :: rest) = goOn (step stack want t) rest
  := by
  rw [run]
  cases step stack want t with
  | going stack want => rfl
  | complete d => rfl
  | failed => rfl

/-- A draft does not begin with a closing bracket, so at the start of a list it is an item. -/
theorem run_itemOrEnd (stack : List Frame) (d : Draft) (rest : List Token) :
  run stack .itemOrEnd (d.spelled ++ rest) = run stack .value (d.spelled ++ rest)
  := by
  cases d with
  | _ =>
    rw [spelled]
    rfl

mutual

/-- Where a value is wanted, the tokens of a draft deliver it. -/
theorem run_spelled : ∀ (d : Draft) (stack : List Frame) (rest : List Token),
  run stack .value (d.spelled ++ rest) = goOn (deliver d stack) rest
  | .null, stack, rest => by rw [spelled, List.singleton_append, run_cons]; rfl
  | .bool b, stack, rest => by rw [spelled, List.singleton_append, run_cons]; rfl
  | .number n, stack, rest => by rw [spelled, List.singleton_append, run_cons]; rfl
  | .string s, stack, rest => by rw [spelled, List.singleton_append, run_cons]; rfl
  | .array [], stack, rest => by
    rw [spelled, spelledItems, List.cons_append, List.cons_append, run_cons]
    exact run_cons _ _ _ _
  | .array (d :: items), stack, rest => by
    have htail := run_tailItems items d [] stack rest
    rw [spelled, spelledItems, List.cons_append, List.cons_append, run_cons]
    simp only [List.append_assoc, List.singleton_append] at htail ⊢
    exact (run_itemOrEnd _ d _).trans ((run_spelled d _ _).trans htail)
  | .object [], stack, rest => by
    rw [spelled, spelledMembers, List.cons_append, List.cons_append, run_cons]
    exact run_cons _ _ _ _
  | .object ((name, d) :: members), stack, rest => by
    have htail := run_tailMembers members (name, d) [] stack rest
    rw [spelled, spelledMembers, List.cons_append, List.cons_append, run_cons]
    simp only [List.append_assoc, List.cons_append] at htail ⊢
    exact (run_spelled d (.named [] name :: stack) _).trans htail
termination_by structural d => d

/-- After an item, the tokens of the items that are left complete the list. -/
theorem run_tailItems : ∀ (items : List Draft) (d : Draft) (done : List Draft)
    (stack : List Frame) (rest : List Token),
  run (.items (d :: done) :: stack) .separator
      ((if items.isEmpty then [] else [.comma]) ++ spelledItems items ++ .closeArray :: rest)
    = goOn (deliver (.array ((d :: done).reverse ++ items)) stack) rest
  | [], d, done, stack, rest => by
    rw [List.append_nil]
    exact run_cons _ _ _ _
  | e :: items, d, done, stack, rest => by
    have htail := run_tailItems items e (d :: done) stack rest
    rw [List.reverse_cons, List.append_assoc] at htail
    rw [spelledItems]
    simp only [List.append_assoc, List.cons_append, List.nil_append, List.isEmpty_cons,
      Bool.false_eq_true, if_false] at htail ⊢
    exact (run_spelled e (.items (d :: done) :: stack) _).trans htail
termination_by structural items => items

/-- After a member, the tokens of the members that are left complete the object. -/
theorem run_tailMembers : ∀ (members : List (Option String × Draft)) (m : Option String × Draft)
    (done : List (Option String × Draft)) (stack : List Frame) (rest : List Token),
  run (.members (m :: done) :: stack) .separator
      ((if members.isEmpty then [] else [.comma]) ++ spelledMembers members
        ++ .closeObject :: rest)
    = goOn (deliver (.object ((m :: done).reverse ++ members)) stack) rest
  | [], m, done, stack, rest => by
    rw [List.append_nil]
    exact run_cons _ _ _ _
  | (name, d) :: members, m, done, stack, rest => by
    have htail := run_tailMembers members (name, d) (m :: done) stack rest
    rw [List.reverse_cons, List.append_assoc] at htail
    rw [spelledMembers]
    simp only [List.append_assoc, List.cons_append, List.isEmpty_cons, Bool.false_eq_true,
      if_false] at htail ⊢
    exact (run_spelled d (.named (m :: done) name :: stack) _).trans htail
termination_by structural members => members

end

/-- A draft is read exactly from the tokens that spell it, whatever comes after them. -/
theorem run_eq_some_iff :
  run [] .value ts = some (d, rest) ↔ ts = d.spelled ++ rest
  := by
  constructor
  · exact eq_of_run (.value rfl)
  · rintro rfl
    apply run_spelled

/-- A text is read as a draft exactly if it spells it. -/
theorem whole?_eq_some_iff {text : List Symbol} :
  whole? text = some d ↔ Spells text d
  := by
  rw [Spells, ← List.append_nil d.spelled, ← run_eq_some_iff, whole?]
  cases run [] .value (tokens text) with
  | none => simp
  | some result =>
    obtain ⟨v, rest⟩ := result
    cases rest with
    | nil => simp
    | cons t rest => simp

end HadithService.Draft
