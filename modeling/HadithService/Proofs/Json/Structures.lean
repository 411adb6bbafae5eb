import HadithService.Json.Decoder
import HadithService.Json.Spelling
import Mathlib.Tactic.Use

/-!
# Structures from drafts

What decoders accept, read off the draft: a structure is an object in which no field comes twice, or
a list with no more items than there are fields (`Decoder.structured_eq_some_iff`), and what an
object gives to a field is what the only member with its name is (`Fields.find_eq_some_iff`).
-/

namespace HadithService

variable {α β : Type} {levels : Nat} {d : Draft} {names : List String} {name : String}
  {members : List (String × Draft)}

/-- Among the members that are fields, those with the name of a field are all of that name. -/
theorem filter_filter_contains (h : name ∈ names) :
  ((members.filter fun m => names.contains m.1).filter fun m => m.1 == name)
    = members.filter fun m => m.1 == name
  := by
  rw [List.filter_filter]
  apply List.filter_congr
  intro m _
  cases hname : m.1 == name with
  | false => apply Bool.false_and
  | true =>
    rw [beq_iff_eq.mp hname, Bool.true_and]
    apply List.contains_iff_mem.mpr h

/-- What an object gives to a field is what the first member with its name is. -/
theorem Fields.find_eq_head? (h : name ∈ names) :
  find ⟨levels, false, members.filter fun m => names.contains m.1⟩ name
    = (Draft.valuesOf members name).head?
  := by
  rw [find, ← List.head?_filter, filter_filter_contains h, ← List.head?_map, ← Draft.valuesOf]

/-- What an object gives to a field is what the only member with its name is. -/
theorem Fields.toList_find (h : name ∈ names)
    (hsingle : (Draft.valuesOf members name).length ≤ 1) :
  (find ⟨levels, false, members.filter fun m => names.contains m.1⟩ name).toList
    = Draft.valuesOf members name
  := by
  rw [find_eq_head? h]
  cases hvalues : Draft.valuesOf members name with
  | nil => rfl
  | cons u values =>
    rw [hvalues] at hsingle
    obtain rfl := List.length_eq_zero_iff.mp (Nat.le_zero.mp (Nat.le_of_succ_le_succ hsingle))
    rfl

theorem Fields.find_eq_some_iff {v : Draft} (h : name ∈ names)
    (hsingle : (Draft.valuesOf members name).length ≤ 1) :
  find ⟨levels, false, members.filter fun m => names.contains m.1⟩ name = some v ↔
    Draft.valuesOf members name = [v]
  := by
  rw [← toList_find h hsingle, Option.toList_eq_singleton_iff]

theorem Fields.find_eq_none {f : Fields} (h : name ∉ f.given.map Prod.fst) :
  f.find name = none
  := by
  rw [find, Option.map_eq_none_iff, List.find?_eq_none]
  intro m hm hname
  apply h
  rw [← beq_iff_eq.mp hname]
  apply List.mem_map_of_mem hm

/-- What a list gives to a field is the item in its place. -/
theorem Fields.find_listed (h : name ∈ names) (items : List Draft) :
  find ⟨levels, true, names.zip items⟩ name = items[names.idxOf name]?
  := by
  rw [find]
  induction names generalizing items with
  | nil => cases h
  | cons first names ih =>
    cases items with
    | nil => simp
    | cons item items =>
      by_cases hfirst : first = name
      · subst hfirst
        simp
      · have hmem : name ∈ names := (List.mem_cons.mp h).resolve_left (Ne.symm hfirst)
        have hne : (first == name) = false := beq_false_of_ne hfirst
        simp [List.idxOf_cons, hne, ih hmem]

theorem Draft.ofMembers_injective :
  Function.Injective ofMembers
  := by
  intro members members' heq
  apply (List.map_inj_right _).mp (Tree.object.inj heq)
  rintro ⟨name, v⟩ ⟨name', v'⟩ hpart
  cases hpart
  rfl

namespace Decoder

/-- When what is read of single items tells what they were, a list is read item by item. -/
theorem mapM_eq_some_iff {f : α → Option β} {g : β → α} (h : ∀ a b, f a = some b ↔ a = g b)
    {as : List α} {bs : List β} :
  as.mapM f = some bs ↔ as = bs.map g
  := by
  induction as generalizing bs with
  | nil =>
    cases bs with
    | nil => simp
    | cons b bs => simp
  | cons a as ih =>
    cases bs with
    | nil => simp [List.mapM_cons, Option.bind_eq_some_iff]
    | cons b bs => simp [List.mapM_cons, Option.bind_eq_some_iff, h, ih]

theorem text_eq_some_iff {s : String} :
  text levels d = some s ↔ d = .string (some s)
  := by
  fun_cases text levels d
  case case1 t => simp
  case case2 hnot =>
    constructor
    · intro h
      cases h
    · intro h
      cases hnot s h

theorem list_text_eq_some_iff {texts : List String} :
  list text (levels + 1) d = some texts ↔ d = Draft.ofTexts texts
  := by
  cases d with
  | array items =>
    rw [list, mapM_eq_some_iff fun a b => text_eq_some_iff, Draft.ofTexts, Tree.array.injEq]
  | _ => simp [list, Draft.ofTexts]

theorem optional_text_eq_some_iff {f : Fields} {s : String} :
  f.optional name text = some (some s) ↔ f.find name = some (.string (some s))
  := by
  rw [Fields.optional, Fields.withDefault]
  cases f.find name with
  | none => simp
  | some v =>
    rw [Option.some.injEq]
    cases v with
    | null => simp [nullable]
    | _ => simp [nullable, text_eq_some_iff]

variable {read : Fields → Option α} {a : α}

/-- No field comes twice exactly if there is at most one value for each. -/
theorem any_repeated_eq_false_iff :
  (names.any fun name => decide
      (1 < (members.filter fun m => names.contains m.1).countP fun m => m.1 == name)) = false ↔
    ∀ name ∈ names, (Draft.valuesOf members name).length ≤ 1
  := by
  rw [List.any_eq_false]
  apply forall₂_congr
  intro name hname
  rw [decide_eq_true_iff, Nat.not_lt, List.countP_eq_length_filter, filter_filter_contains hname,
    Draft.valuesOf, List.length_map]

/-- A structure is read from an object exactly if every name in it is a text and no field comes
twice. -/
theorem object_eq_some_iff :
  object names read (levels + 1) d = some a ↔
    ∃ members, d = Draft.ofMembers members ∧
      (∀ name ∈ names, (Draft.valuesOf members name).length ≤ 1) ∧
      read ⟨levels, false, members.filter fun m => names.contains m.1⟩ = some a
  := by
  cases d with
  | object parts =>
    have hparts : ∀ members : List (String × Draft),
        (parts.mapM fun m => m.1.map fun name => (name, m.2)) = some members ↔
          Tree.object parts = Draft.ofMembers members := by
      intro members
      rw [Draft.ofMembers, Tree.object.injEq]
      apply mapM_eq_some_iff
      rintro ⟨name, v⟩ ⟨name', v'⟩
      cases name with
      | none => simp
      | some name => simp
    rw [object]
    cases hmembers : parts.mapM fun m => m.1.map fun name => (name, m.2) with
    | none => simp [← hparts, hmembers]
    | some members =>
      simp only [← hparts, hmembers, Option.some.injEq, exists_eq_left',
        ← any_repeated_eq_false_iff]
      split
      case isTrue hrepeated => simp only [hrepeated, reduceCtorEq, false_and]
      case isFalse hsingle => simp only [eq_false_of_ne_true hsingle, true_and]
  | _ => simp [object, Draft.ofMembers]

/-- A structure is read from an object, or from a list with no more items than fields. -/
theorem structured_eq_some_iff :
  structured names read (levels + 1) d = some a ↔
    (∃ members, d = Draft.ofMembers members ∧
      (∀ name ∈ names, (Draft.valuesOf members name).length ≤ 1) ∧
      read ⟨levels, false, members.filter fun m => names.contains m.1⟩ = some a) ∨
    ∃ items, d = .array items ∧ items.length ≤ names.length ∧
      read ⟨levels, true, names.zip items⟩ = some a
  := by
  cases d with
  | array items => simp [structured, Draft.ofMembers]
  | _ => simp [structured, object_eq_some_iff]

/-- A structure is read from an object in which no field comes twice. -/
theorem structured_members (members : List (String × Draft)) :
  structured names read (levels + 1) (Draft.ofMembers members)
    = if ∀ name ∈ names, (Draft.valuesOf members name).length ≤ 1 then
        read ⟨levels, false, members.filter fun m => names.contains m.1⟩
      else none
  := by
  apply Option.ext
  intro a
  rw [structured_eq_some_iff]
  split
  case isTrue hsingle =>
    constructor
    · rintro (⟨members', hmembers, -, hread⟩ | ⟨items, hitems, -⟩)
      · rw [Draft.ofMembers_injective hmembers]
        apply hread
      · cases hitems
    · intro hread
      left
      use members
  case isFalse htwice =>
    constructor
    · rintro (⟨members', hmembers, hsingle, -⟩ | ⟨items, hitems, -⟩)
      · rw [← Draft.ofMembers_injective hmembers] at hsingle
        cases htwice hsingle
      · cases hitems
    · intro h
      cases h

/-- From an object that has only fields of a structure, and none twice, the structure is read with
all of its members. -/
theorem structured_ofMembers (hfields : (members.map Prod.fst).Sublist names)
    (hnames : names.Nodup) :
  structured names read (levels + 1) (Draft.ofMembers members) = read ⟨levels, false, members⟩
  := by
  have hknown : (members.filter fun m => names.contains m.1) = members := by
    rw [List.filter_eq_self]
    intro m hm
    rw [List.contains_iff_mem]
    apply hfields.subset (List.mem_map_of_mem hm)
  rw [structured_members, if_pos, hknown]
  intro name _
  have hcount := List.nodup_iff_count.mp (hnames.sublist hfields) name
  rw [List.count_eq_countP, List.countP_map, List.countP_eq_length_filter] at hcount
  rw [Draft.valuesOf, List.length_map]
  exact hcount

end Decoder

end HadithService
