import HadithService.Proofs.Json.Structures
import Mathlib.Data.List.Basic

/-!
# Structures that change

When a draft of a structure changes in one field, its decoder is given the same fields besides this
one (`Decoder.structured_of_changes`).  What is read of other fields then stays the same, and for a
field that may be null a null that is added is the same as nothing (`Fields.Changed.optional_eq`).
-/

namespace HadithService

variable {α : Type} {names : List String} {name other : String} {d d' : Draft}
  {v v' : Option Draft} {members members' : List (String × Draft)}

/-- What a structure with some fields was given for one of them changes: in an object there is a
member more or the value of a member is another one, in a list the item in the place of the
field is. -/
inductive Draft.Changes (names : List String) (name : String) :
    Option Draft → Option Draft → Draft → Draft → Prop where
  | added {before after : List (String × Draft)} {v : Draft}
    (h : name ∉ (before ++ after).map Prod.fst) :
    Changes names name none (some v) (ofMembers (before ++ after))
      (ofMembers (before ++ (name, v) :: after))
  | member {before after : List (String × Draft)} {v v' : Draft} :
    Changes names name (some v) (some v') (ofMembers (before ++ (name, v) :: after))
      (ofMembers (before ++ (name, v') :: after))
  | item {before after : List Draft} {v v' : Draft} (h : before.length = names.idxOf name) :
    Changes names name (some v) (some v') (.array (before ++ v :: after))
      (.array (before ++ v' :: after))

namespace Draft

theorem valuesOf_append (members members' : List (String × Draft)) (name : String) :
  valuesOf (members ++ members') name = valuesOf members name ++ valuesOf members' name
  := by
  rw [valuesOf, List.filter_append, List.map_append, ← valuesOf, ← valuesOf]

theorem valuesOf_cons_self (name : String) (d : Draft) (members : List (String × Draft)) :
  valuesOf ((name, d) :: members) name = d :: valuesOf members name
  := by
  simp [valuesOf]

theorem valuesOf_cons_of_ne (hne : other ≠ name) (d : Draft) (members : List (String × Draft)) :
  valuesOf ((name, d) :: members) other = valuesOf members other
  := by
  simp [valuesOf, Ne.symm hne]

theorem valuesOf_eq_nil (h : name ∉ members.map Prod.fst) :
  valuesOf members name = []
  := by
  rw [valuesOf, List.map_eq_nil_iff, List.filter_eq_nil_iff]
  intro m hm hname
  apply h
  rw [← beq_iff_eq.mp hname]
  apply List.mem_map_of_mem hm

end Draft

namespace Fields

variable {f f' : Fields}

/-- What was given for a field has changed, and nothing else. -/
structure Changed (name : String) (v v' : Option Draft) (f f' : Fields) : Prop where
  levels : f'.levels = f.levels
  before : f.find name = v
  after : f'.find name = v'
  others : ∀ other, other ≠ name → f'.find other = f.find other

theorem Changed.withDefault_of_ne (h : Changed name v v' f f') (hne : other ≠ name)
    (d : Decoder α) (default : α) :
  f'.withDefault other d default = f.withDefault other d default
  := by
  rw [Fields.withDefault, h.others other hne, h.levels, Fields.withDefault]

theorem Changed.optional_of_ne (h : Changed name v v' f f') (hne : other ≠ name)
    (d : Decoder α) :
  f'.optional other d = f.optional other d
  := h.withDefault_of_ne hne d.nullable none

theorem Changed.required_of_ne (h : Changed name v v' f f') (hne : other ≠ name)
    (d : Decoder α) :
  f'.required other d = f.required other d
  := by
  rw [Fields.required, h.others other hne, h.levels, Fields.required]

/-- A null that is added is the same as nothing for a field that may be null. -/
theorem Changed.optional_eq (h : Changed name none (some .null) f f') (other : String)
    (d : Decoder α) :
  f'.optional other d = f.optional other d
  := by
  by_cases hname : other = name
  · subst hname
    rw [Fields.optional, Fields.optional, Fields.withDefault, Fields.withDefault, h.before, h.after]
    rfl
  · apply h.optional_of_ne hname

/-- A field is not read if its value is not. -/
theorem Changed.withDefault_eq_none {u : Draft} (h : Changed name v (some u) f f')
    {d : Decoder α} (hunread : ∀ levels, d levels u = none) (default : α) :
  f'.withDefault name d default = none
  := by
  rw [Fields.withDefault, h.after]
  apply hunread

theorem Changed.required_eq_none {u : Draft} (h : Changed name v (some u) f f')
    {d : Decoder α} (hunread : ∀ levels, d levels u = none) :
  f'.required name d = none
  := by
  rw [Fields.required, h.after]
  apply hunread

/-- What is read of a field does not change when its value is read as before. -/
theorem Changed.optional_self {u u' : Draft} (h : Changed name (some u) (some u') f f')
    {d : Decoder α} (hread : ∀ levels, d.nullable levels u' = d.nullable levels u) :
  f'.optional name d = f.optional name d
  := by
  rw [Fields.optional, Fields.optional, Fields.withDefault, Fields.withDefault, h.before, h.after,
    h.levels]
  apply hread

theorem Changed.withDefault_self {u u' : Draft} (h : Changed name (some u) (some u') f f')
    {d : Decoder α} (hread : ∀ levels, d levels u' = d levels u) (default : α) :
  f'.withDefault name d default = f.withDefault name d default
  := by
  rw [Fields.withDefault, Fields.withDefault, h.before, h.after, h.levels]
  apply hread

theorem Changed.required_self {u u' : Draft} (h : Changed name (some u) (some u') f f')
    {d : Decoder α} (hread : ∀ levels, d levels u' = d levels u) :
  f'.required name d = f.required name d
  := by
  rw [Fields.required, Fields.required, h.before, h.after, h.levels]
  apply hread

end Fields

namespace Decoder

variable {levels : Nat}

theorem structured_items (read : Fields → Option α) (items : List Draft) :
  structured names read (levels + 1) (.array items)
    = if items.length ≤ names.length then read ⟨levels, true, names.zip items⟩ else none
  := rfl

theorem find_of_not_mem (h : name ∉ names) :
  Fields.find ⟨levels, false, members.filter fun m => names.contains m.1⟩ name = none
  := by
  apply Fields.find_eq_none
  intro hname
  obtain ⟨m, hm, rfl⟩ := List.mem_map.mp hname
  apply h
  apply List.contains_iff_mem.mp (List.mem_filter.mp hm).2

/-- What is given to a field is what the member with its name is, and all other members give what
they gave. -/
theorem changed_of_values (hname : name ∈ names)
    (hbefore : Draft.valuesOf members name = v.toList)
    (hafter : Draft.valuesOf members' name = v'.toList)
    (hothers : ∀ other, other ≠ name →
      Draft.valuesOf members' other = Draft.valuesOf members other) :
  Fields.Changed name v v' ⟨levels, false, members.filter fun m => names.contains m.1⟩
    ⟨levels, false, members'.filter fun m => names.contains m.1⟩
  where
    levels := rfl
    before := by
      rw [Fields.find_eq_head? hname, hbefore, Option.head?_toList]
    after := by
      rw [Fields.find_eq_head? hname, hafter, Option.head?_toList]
    others := by
      intro other hne
      by_cases hother : other ∈ names
      · rw [Fields.find_eq_head? hother, Fields.find_eq_head? hother, hothers other hne]
      · rw [find_of_not_mem hother, find_of_not_mem hother]

theorem find_listed_of_not_mem (h : name ∉ names) (items : List Draft) :
  Fields.find ⟨levels, true, names.zip items⟩ name = none
  := by
  apply Fields.find_eq_none
  intro hname
  obtain ⟨m, hm, rfl⟩ := List.mem_map.mp hname
  apply h
  apply (List.of_mem_zip hm).1

/-- What is given to a field by a list is the item in its place. -/
theorem changed_of_item {before after : List Draft} {v v' : Draft} (hname : name ∈ names)
    (h : before.length = names.idxOf name) :
  Fields.Changed name (some v) (some v') ⟨levels, true, names.zip (before ++ v :: after)⟩
    ⟨levels, true, names.zip (before ++ v' :: after)⟩
  where
    levels := rfl
    before := by
      rw [Fields.find_listed hname, ← h]
      simp
    after := by
      rw [Fields.find_listed hname, ← h]
      simp
    others := by
      intro other hne
      by_cases hother : other ∈ names
      · have hplace : names.idxOf other ≠ before.length := by
          rw [h]
          exact fun heq => hne ((List.idxOf_inj hother).mp heq)
        rw [Fields.find_listed hother, Fields.find_listed hother, List.getElem?_append,
          List.getElem?_append]
        split
        case isTrue => rfl
        case isFalse hge =>
          obtain ⟨i, hi⟩ : ∃ i, names.idxOf other - before.length = i + 1 :=
            Nat.exists_eq_add_one_of_ne_zero (by omega)
          rw [hi, List.getElem?_cons_succ, List.getElem?_cons_succ]
      · rw [find_listed_of_not_mem hother, find_listed_of_not_mem hother]

variable {read read' : Fields → Option α}

/-- When the members with one name change, either there is still no field that comes twice, or there
is one as before. -/
theorem structured_members_congr
    (hself : (Draft.valuesOf members' name).length ≤ 1 ↔
      (Draft.valuesOf members name).length ≤ 1)
    (hothers : ∀ other, other ≠ name →
      Draft.valuesOf members' other = Draft.valuesOf members other)
    (hread : (∀ name ∈ names, (Draft.valuesOf members name).length ≤ 1) →
      read' ⟨levels, false, members'.filter fun m => names.contains m.1⟩
        = read ⟨levels, false, members.filter fun m => names.contains m.1⟩) :
  structured names read' (levels + 1) (Draft.ofMembers members')
    = structured names read (levels + 1) (Draft.ofMembers members)
  := by
  have hsingle : (∀ name ∈ names, (Draft.valuesOf members' name).length ≤ 1) ↔
      ∀ name ∈ names, (Draft.valuesOf members name).length ≤ 1 := by
    apply forall₂_congr
    intro other _
    by_cases hother : other = name
    · rw [hother]
      apply hself
    · rw [hothers other hother]
  rw [structured_members, structured_members]
  simp only [hsingle]
  split
  case isTrue h => apply hread h
  case isFalse => rfl

/-- A structure that changes in a field is read as before if the reading of fields does not depend
on the change. -/
theorem structured_of_changes (hname : name ∈ names) (h : Draft.Changes names name v v' d d')
    (hread : ∀ f f' : Fields, f.Changed name v v' f' → read' f' = read f) :
  structured names read' levels d' = structured names read levels d
  := by
  cases levels with
  | zero => cases h <;> rfl
  | succ levels =>
    cases h with
    | @added before after v h =>
      have hnone : Draft.valuesOf (before ++ after) name = [] := Draft.valuesOf_eq_nil h
      have hone : Draft.valuesOf (before ++ (name, v) :: after) name = [v] := by
        rw [Draft.valuesOf_append, List.append_eq_nil_iff] at hnone
        rw [Draft.valuesOf_append, Draft.valuesOf_cons_self, hnone.1, hnone.2]
        rfl
      have hothers : ∀ other, other ≠ name →
          Draft.valuesOf (before ++ (name, v) :: after) other
            = Draft.valuesOf (before ++ after) other := by
        intro other hne
        rw [Draft.valuesOf_append, Draft.valuesOf_cons_of_ne hne, Draft.valuesOf_append]
      apply structured_members_congr (by simp [hnone, hone]) hothers
      intro _
      apply hread _ _ (changed_of_values hname hnone hone hothers)
    | @member before after v v' =>
      have hvalues : ∀ v, Draft.valuesOf (before ++ (name, v) :: after) name
          = Draft.valuesOf before name ++ v :: Draft.valuesOf after name := by
        intro v
        rw [Draft.valuesOf_append, Draft.valuesOf_cons_self]
      have hothers : ∀ other, other ≠ name →
          Draft.valuesOf (before ++ (name, v') :: after) other
            = Draft.valuesOf (before ++ (name, v) :: after) other := by
        intro other hne
        rw [Draft.valuesOf_append, Draft.valuesOf_cons_of_ne hne, Draft.valuesOf_append,
          Draft.valuesOf_cons_of_ne hne]
      apply structured_members_congr (by simp [hvalues]) hothers
      intro hsingle
      have hself := hsingle name hname
      rw [hvalues, List.length_append, List.length_cons] at hself
      have hnone : Draft.valuesOf before name = [] ∧ Draft.valuesOf after name = [] := by
        rw [← List.length_eq_zero_iff, ← List.length_eq_zero_iff]
        omega
      apply hread _ _ (changed_of_values hname _ _ hothers)
      · rw [hvalues, hnone.1, hnone.2]
        rfl
      · rw [hvalues, hnone.1, hnone.2]
        rfl
    | @item before after v v' h =>
      rw [structured_items, structured_items, List.length_append, List.length_append,
        List.length_cons, List.length_cons]
      split
      case isFalse => rfl
      case isTrue => apply hread _ _ (changed_of_item hname h)

theorem structured_none (names : List String) (levels : Nat) (d : Draft) :
  structured (α := α) names (fun _ => none) levels d = none
  := by
  cases levels with
  | zero => cases d <;> rfl
  | succ levels =>
    rw [Option.eq_none_iff_forall_ne_some]
    intro a
    rw [ne_eq, structured_eq_some_iff]
    simp

/-- A structure that changes in a field is not read if its fields are not with the change. -/
theorem structured_eq_none_of_changes (hname : name ∈ names)
    (h : Draft.Changes names name v v' d d')
    (hread : ∀ f f' : Fields, f.Changed name v v' f' → read f' = none) :
  structured names read levels d' = none
  := by
  have hnone : structured names read levels d' = structured names (fun _ => none) levels d :=
    structured_of_changes hname h hread
  rw [hnone, structured_none]

/-! ### Nulls -/

theorem structured_null (names : List String) (read : Fields → Option α) (levels : Nat) :
  structured names read levels .null = none
  := by
  cases levels <;> rfl

theorem list_null (decoder : Decoder α) (levels : Nat) :
  list decoder levels .null = none
  := by
  cases levels <;> rfl

theorem table_null (decoder : Decoder α) (levels : Nat) :
  table decoder levels .null = none
  := by
  cases levels <;> rfl

/-- What changes in a field is not null. -/
theorem nullable_of_changes (decoder : Decoder α) (h : Draft.Changes names name v v' d d')
    (hread : decoder levels d' = decoder levels d) :
  decoder.nullable levels d' = decoder.nullable levels d
  := by
  have hvalue : decoder.nullable levels d = (decoder levels d).map some := by
    cases h <;> rfl
  have hvalue' : decoder.nullable levels d' = (decoder levels d').map some := by
    cases h <;> rfl
  rw [hvalue, hvalue', hread]

/-! ### Lists -/

/-- A list in which an item is read as before is read as before. -/
theorem list_congr {decoder : Decoder α} {u u' : Draft} (before after : List Draft)
    (hread : ∀ levels, decoder levels u' = decoder levels u) (levels : Nat) :
  list decoder levels (.array (before ++ u' :: after))
    = list decoder levels (.array (before ++ u :: after))
  := by
  cases levels with
  | zero => rfl
  | succ levels =>
    rw [list, list, List.mapM_append, List.mapM_append, List.mapM_cons, List.mapM_cons, hread]

/-- A list with an item that is not read is not read. -/
theorem list_eq_none {decoder : Decoder α} {u : Draft} (before after : List Draft)
    (hread : ∀ levels, decoder levels u = none) (levels : Nat) :
  list decoder levels (.array (before ++ u :: after)) = none
  := by
  cases levels with
  | zero => rfl
  | succ levels =>
    rw [list, List.mapM_append, List.mapM_cons, hread]
    simp

end Decoder

end HadithService
