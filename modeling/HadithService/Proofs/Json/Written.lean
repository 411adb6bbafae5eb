import HadithService.Proofs.Json.Rendering
import HadithService.Proofs.Json.Structures
import Mathlib.Data.List.Forall2

/-!
# Structures as they are written

A structure is written as an object with a member for every field that is not left out
(`Written.record`).  A decoder of the structure is given every field under its name, with what was
written for it (`Written.structured_record`, `Written.find_given`).
-/

namespace HadithService

/-- A JSON value with the draft that its text is read as. -/
structure Written where
  json : Json
  draft : Draft
  spells : json.Spells draft

namespace Written

/-- A text. -/
def text (s : String) : Written :=
  ⟨.string s, .string (some s), .string s⟩

/-- A text or, when there is none, a null. -/
def ofText? : Option String → Written
  | none => ⟨.null, .null, .null⟩
  | some s => text s

/-- A truth value. -/
def bool (b : Bool) : Written :=
  ⟨.bool b, .bool b, .bool b⟩

/-- A whole number. -/
def ofNat (n : Nat) : Written :=
  ⟨.ofNat n, .number (.ofNat n), .ofNat n⟩

/-- Those of some fields that are not left out. -/
def present (fields : List (String × Option Written)) : List (String × Written) :=
  fields.filterMap fun f => f.2.map fun w => (f.1, w)

theorem present_nil :
  present [] = []
  := rfl

theorem present_cons (name : String) (value : Option Written)
    (fields : List (String × Option Written)) :
  present ((name, value) :: fields) = (value.map fun w => (name, w)).toList ++ present fields
  := by
  cases value with
  | none => rfl
  | some w => rfl

/-- A structure with some fields, of which those without a value are left out. -/
def record (fields : List (String × Option Written)) : Written where
  json := .object ((present fields).map fun m => (m.1, m.2.json))
  draft := .ofMembers ((present fields).map fun m => (m.1, m.2.draft))
  spells := by
    apply Json.Spells.object
    rw [List.forall₂_map_left_iff, List.forall₂_map_right_iff, List.forall₂_same]
    intro m _
    use rfl, m.2.spells

/-- The text of what is written is read as its draft. -/
theorem whole?_render (w : Written) :
  Draft.whole? (Symbol.ofText w.json.render) = some w.draft
  := w.spells.whole?_render

/-! ### What decoders are given -/

/-- What a decoder is given of a structure with some fields. -/
def given (levels : Nat) (fields : List (String × Option Written)) : Fields :=
  ⟨levels, false, (present fields).map fun m => (m.1, m.2.draft)⟩

variable {α : Type} {levels : Nat} {fields : List (String × Option Written)} {name : String}

theorem names_present_sublist (fields : List (String × Option Written)) :
  ((present fields).map Prod.fst).Sublist (fields.map Prod.fst)
  := by
  induction fields with
  | nil => apply List.Sublist.refl
  | cons f fields ih =>
    obtain ⟨name, value⟩ := f
    cases value with
    | none => apply ih.cons name
    | some w => apply ih.cons_cons name

theorem find_eq_none (hname : name ∉ fields.map Prod.fst) :
  (given levels fields).find name = none
  := by
  apply Fields.find_eq_none
  intro hmem
  obtain ⟨m, hm, rfl⟩ := List.mem_map.mp hmem
  obtain ⟨field, hfield, rfl⟩ := List.mem_map.mp hm
  apply hname
  apply (names_present_sublist fields).subset (List.mem_map_of_mem hfield)

/-- What is given for a field is what was written for it. -/
theorem find_given (hnodup : (fields.map Prod.fst).Nodup) {value : Option Written}
    (hfield : fields.lookup name = some value) :
  (given levels fields).find name = value.map draft
  := by
  induction fields with
  | nil => cases hfield
  | cons f fields ih =>
    obtain ⟨first, other⟩ := f
    rw [List.map_cons, List.nodup_cons] at hnodup
    by_cases hfirst : name = first
    · subst hfirst
      rw [List.lookup_cons_self] at hfield
      obtain rfl := Option.some.inj hfield
      cases other with
      | none =>
        have habsent : (given levels fields).find name = none := find_eq_none hnodup.1
        exact habsent
      | some w => simp [Fields.find, given, present]
    · have hbefore : (given levels ((first, other) :: fields)).find name
          = (given levels fields).find name := by
        cases other with
        | none => rfl
        | some w => simp [Fields.find, given, present, Ne.symm hfirst]
      have hrest : fields.lookup name = some value := by
        rw [List.lookup_cons, beq_false_of_ne hfirst] at hfield
        exact hfield
      rw [hbefore, ih hnodup.2 hrest]

/-- A decoder of a structure is given the fields that were written. -/
theorem structured_record {read : Fields → Option α} (hnodup : (fields.map Prod.fst).Nodup) :
  Decoder.structured (fields.map Prod.fst) read (levels + 1) (record fields).draft
    = read (given levels fields)
  := by
  have hsub := names_present_sublist fields
  apply Decoder.structured_ofMembers _ hnodup
  rw [List.map_map]
  exact hsub

/-! ### Reading fields -/

theorem required_given {d : Decoder α} {w : Written} {a : α}
    (hnodup : (fields.map Prod.fst).Nodup) (hfield : fields.lookup name = some (some w))
    (hread : d levels w.draft = some a) :
  (given levels fields).required name d = some a
  := by
  rw [Fields.required, find_given hnodup hfield]
  exact hread

theorem required_text_given {s : String} (hnodup : (fields.map Prod.fst).Nodup)
    (hfield : fields.lookup name = some (some (text s))) :
  (given levels fields).required name Decoder.text = some s
  := required_given hnodup hfield rfl

/-- A text that is left out when there is none. -/
theorem optional_given {s? : Option String} (hnodup : (fields.map Prod.fst).Nodup)
    (hfield : fields.lookup name = some (s?.map text)) :
  (given levels fields).optional name Decoder.text = some s?
  := by
  rw [Fields.optional, Fields.withDefault, find_given hnodup hfield]
  cases s? with
  | none => rfl
  | some s => rfl

/-- A text that is null when there is none. -/
theorem optionalIfNamed_given {s? : Option String} (hnodup : (fields.map Prod.fst).Nodup)
    (hfield : fields.lookup name = some (some (ofText? s?))) :
  (given levels fields).optionalIfNamed name Decoder.text = some s?
  := by
  rw [Fields.optionalIfNamed, find_given hnodup hfield]
  cases s? with
  | none => rfl
  | some s => rfl

/-- A field that is never written. -/
theorem optionalIfNamed_left_out {d : Decoder α} (hnodup : (fields.map Prod.fst).Nodup)
    (hfield : fields.lookup name = some none) :
  (given levels fields).optionalIfNamed name d = some none
  := by
  rw [Fields.optionalIfNamed, find_given hnodup hfield]
  rfl

end Written

end HadithService
