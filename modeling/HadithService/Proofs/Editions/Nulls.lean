import HadithService.Edition
import HadithService.Proofs.Json.Changes
import HadithService.Proofs.Json.Drafts

/-!
# Nulls in the documents of editions

A document in which a null is added under the name of a field that was missing is read as the same
edition, unless the field is one of the three that have a default of their own: then it is not read
at all (`Edition.read?_of_gainsNull`).
-/

namespace HadithService

variable {levels : Nat} {name : String} {d d' : Draft}

/-- The fields of a reference. -/
abbrev Reference.fieldNames : List String :=
  ["book", "hadith"]

/-- The fields of an entry. -/
abbrev Entry.fieldNames : List String :=
  ["hadithnumber", "number", "text", "english", "translation", "grades", "grade", "reference",
   "book", "bookName", "chapter", "chapterName", "narrator", "reporter"]

/-- The fields of what an edition says about itself. -/
abbrev EditionHead.fieldNames : List String :=
  ["name", "section"]

namespace Edition

/-- The fields of an edition. -/
abbrev fieldNames : List String :=
  ["metadata", "collection_name", "hadiths"]

/-- The fields that have a default of their own when they are missing. -/
def defaulted : List String :=
  ["metadata", "section", "grades"]

/-- The document of an edition gains a null under the name of a field that was missing: in the
edition itself, in what it says about itself, in an entry, or in the reference of an entry. -/
inductive GainsNull (name : String) : Draft → Draft → Prop where
  | edition {d d' : Draft} (hname : name ∈ ["metadata", "collection_name"])
    (h : Draft.Changes fieldNames name none (some .null) d d') : GainsNull name d d'
  | head {head head' d d' : Draft} (hname : name ∈ EditionHead.fieldNames)
    (hhead : Draft.Changes EditionHead.fieldNames name none (some .null) head head')
    (h : Draft.Changes fieldNames "metadata" (some head) (some head') d d') : GainsNull name d d'
  | entry {before after : List Draft} {entry entry' d d' : Draft} (hname : name ∈ Entry.fieldNames)
    (hentry : Draft.Changes Entry.fieldNames name none (some .null) entry entry')
    (h : Draft.Changes fieldNames "hadiths" (some (.array (before ++ entry :: after)))
      (some (.array (before ++ entry' :: after))) d d') : GainsNull name d d'
  | reference {before after : List Draft} {reference reference' entry entry' d d' : Draft}
    (hname : name ∈ Reference.fieldNames)
    (hreference : Draft.Changes Reference.fieldNames name none (some .null) reference reference')
    (hentry : Draft.Changes Entry.fieldNames "reference" (some reference) (some reference') entry
      entry')
    (h : Draft.Changes fieldNames "hadiths" (some (.array (before ++ entry :: after)))
      (some (.array (before ++ entry' :: after))) d d') : GainsNull name d d'

end Edition

/-! ### Nulls and single structures -/

theorem Entry.referenceDecoder_of_null (hname : name ∈ Reference.fieldNames)
    (h : Draft.Changes Reference.fieldNames name none (some .null) d d') :
  referenceDecoder levels d' = referenceDecoder levels d
  := by
  apply Decoder.structured_of_changes hname h
  intro f f' hf
  rw [hf.optional_eq, hf.optional_eq]

theorem Entry.decoder_of_null (hname : name ∈ Entry.fieldNames) (hne : name ≠ "grades")
    (h : Draft.Changes Entry.fieldNames name none (some .null) d d') :
  decoder levels d' = decoder levels d
  := by
  apply Decoder.structured_of_changes hname h
  intro f f' hf
  simp only [hf.optional_eq, hf.withDefault_of_ne (Ne.symm hne)]

theorem Entry.decoder_of_null_grades
    (h : Draft.Changes Entry.fieldNames "grades" none (some .null) d d') :
  decoder levels d' = none
  := by
  apply Decoder.structured_eq_none_of_changes (by decide) h
  intro f f' hf
  rw [hf.withDefault_eq_none (Decoder.list_null _)]
  simp

/-- An entry is read as before when its reference is. -/
theorem Entry.decoder_of_reference {reference reference' : Draft}
    (hread : ∀ levels, referenceDecoder.nullable levels reference'
      = referenceDecoder.nullable levels reference)
    (h : Draft.Changes Entry.fieldNames "reference" (some reference) (some reference') d d') :
  decoder levels d' = decoder levels d
  := by
  apply Decoder.structured_of_changes (by decide) h
  intro f f' hf
  have hgrades := hf.withDefault_of_ne (by decide : "grades" ≠ "reference")
    (Decoder.list gradeDecoder) []
  rw [hf.optional_self hread, hgrades]
  simp (disch := decide) only [hf.optional_of_ne]

namespace Edition

theorem headDecoder_of_null_name
    (h : Draft.Changes EditionHead.fieldNames "name" none (some .null) d d') :
  headDecoder levels d' = headDecoder levels d
  := by
  apply Decoder.structured_of_changes (by decide) h
  intro f f' hf
  rw [hf.optional_eq, hf.withDefault_of_ne (by decide)]

theorem headDecoder_of_null_section
    (h : Draft.Changes EditionHead.fieldNames "section" none (some .null) d d') :
  headDecoder levels d' = none
  := by
  apply Decoder.structured_eq_none_of_changes (by decide) h
  intro f f' hf
  rw [hf.withDefault_eq_none (Decoder.table_null _)]
  simp

/-! ### Nulls and editions -/

theorem decoder_of_null_collection
    (h : Draft.Changes fieldNames "collection_name" none (some .null) d d') :
  decoder levels d' = decoder levels d
  := by
  apply Decoder.structured_of_changes (by decide) h
  intro f f' hf
  rw [hf.optional_eq, hf.withDefault_of_ne (by decide), hf.required_of_ne (by decide)]

/-- An edition is read as before when its head is. -/
theorem decoder_of_head {head head' : Draft}
    (hread : ∀ levels, headDecoder levels head' = headDecoder levels head)
    (h : Draft.Changes fieldNames "metadata" (some head) (some head') d d') :
  decoder levels d' = decoder levels d
  := by
  apply Decoder.structured_of_changes (by decide) h
  intro f f' hf
  rw [hf.withDefault_self hread, hf.optional_of_ne (by decide), hf.required_of_ne (by decide)]

theorem decoder_of_unread_head {v : Option Draft} {head : Draft}
    (hunread : ∀ levels, headDecoder levels head = none)
    (h : Draft.Changes fieldNames "metadata" v (some head) d d') :
  decoder levels d' = none
  := by
  apply Decoder.structured_eq_none_of_changes (by decide) h
  intro f f' hf
  rw [hf.withDefault_eq_none hunread]
  rfl

/-- An edition is read as before when its entries are. -/
theorem decoder_of_entries {entries entries' : Draft}
    (hread : ∀ levels, Decoder.list Entry.decoder levels entries'
      = Decoder.list Entry.decoder levels entries)
    (h : Draft.Changes fieldNames "hadiths" (some entries) (some entries') d d') :
  decoder levels d' = decoder levels d
  := by
  apply Decoder.structured_of_changes (by decide) h
  intro f f' hf
  rw [hf.required_self hread, hf.withDefault_of_ne (by decide), hf.optional_of_ne (by decide)]

theorem decoder_of_unread_entries {v : Option Draft} {entries : Draft}
    (hunread : ∀ levels, Decoder.list Entry.decoder levels entries = none)
    (h : Draft.Changes fieldNames "hadiths" v (some entries) d d') :
  decoder levels d' = none
  := by
  apply Decoder.structured_eq_none_of_changes (by decide) h
  intro f f' hf
  rw [hf.required_eq_none hunread]
  simp

/-- A null that is added changes nothing unless it is for a field with a default of its own. -/
theorem decoder_of_gainsNull (h : GainsNull name d d') :
  decoder levels d' = if name ∈ defaulted then none else decoder levels d
  := by
  cases h with
  | edition hname h =>
    rcases List.mem_pair.mp hname with rfl | rfl
    · apply decoder_of_unread_head (Decoder.structured_null _ _) h
    · apply decoder_of_null_collection h
  | @head head head' _ _ hname hhead h =>
    rcases List.mem_pair.mp hname with rfl | rfl
    · apply decoder_of_head (fun _ => headDecoder_of_null_name hhead) h
    · apply decoder_of_unread_head (fun _ => headDecoder_of_null_section hhead) h
  | @entry before after entry entry' _ _ hname hentry h =>
    by_cases hgrades : name = "grades"
    · subst hgrades
      apply decoder_of_unread_entries _ h
      apply Decoder.list_eq_none
      intro levels
      apply Entry.decoder_of_null_grades hentry
    · rw [if_neg]
      · apply decoder_of_entries _ h
        apply Decoder.list_congr
        intro levels
        apply Entry.decoder_of_null hname hgrades hentry
      · have honly : ∀ name ∈ Entry.fieldNames, name ∈ defaulted → name = "grades" := by decide
        apply mt (honly name hname) hgrades
  | @reference before after reference reference' entry entry' _ _ hname hreference hentry h =>
    rw [if_neg]
    · apply decoder_of_entries _ h
      apply Decoder.list_congr
      intro levels
      apply Entry.decoder_of_reference _ hentry
      intro levels
      apply Decoder.nullable_of_changes _ hreference
      apply Entry.referenceDecoder_of_null hname hreference
    · rcases List.mem_pair.mp hname with rfl | rfl <;> decide

/-- A document that gains a null under the name of a field that was missing is read as the same
edition, so that it gives the same hadiths under every identifier, unless the field has a default of
its own; then it is not read. -/
theorem read?_of_gainsNull {document document' : List Symbol} (hspells : Draft.Spells document d)
    (hspells' : Draft.Spells document' d') (h : GainsNull name d d') :
  read? document' = if name ∈ defaulted then none else read? document
  := by
  rw [read?, Draft.whole?_eq_some_iff.mpr hspells', read?, Draft.whole?_eq_some_iff.mpr hspells,
    Option.bind_some, Option.bind_some]
  apply decoder_of_gainsNull h

/-- The document of an edition with one entry, given the text of its reference. -/
def referring (reference : String) : List Symbol :=
  Symbol.ofText "\x7b\"hadiths\":[\x7b\"number\":\"1\",\"reference\":" ++ Symbol.ofText reference
    ++ Symbol.ofText "\x7d]\x7d"

/-- The draft of an edition with one entry, given the members of its reference. -/
def referringDraft (reference : List (String × Draft)) : Draft :=
  Draft.ofMembers [("hadiths", .array
    [Draft.ofMembers [("number", .string (some "1")), ("reference", Draft.ofMembers reference)]])]

/-- A null for the number of the hadith is added to a reference that has the number of the book. -/
theorem read?_of_gainsNull_reference :
  (read? (referring "\x7b\"book\":\"2\"\x7d")).isSome ∧
    GainsNull "hadith" (referringDraft [("book", .string (some "2"))])
      (referringDraft [("book", .string (some "2")), ("hadith", .null)]) ∧
    read? (referring "\x7b\"book\":\"2\",\"hadith\":null\x7d")
      = read? (referring "\x7b\"book\":\"2\"\x7d")
  := by
  have hspells : Draft.Spells (referring "\x7b\"book\":\"2\"\x7d")
      (referringDraft [("book", .string (some "2"))]) := by
    rw [Draft.Spells]
    decide +kernel
  have hspells' : Draft.Spells (referring "\x7b\"book\":\"2\",\"hadith\":null\x7d")
      (referringDraft [("book", .string (some "2")), ("hadith", .null)]) := by
    rw [Draft.Spells]
    decide +kernel
  have hgains : GainsNull "hadith" (referringDraft [("book", .string (some "2"))])
      (referringDraft [("book", .string (some "2")), ("hadith", .null)]) := by
    apply @GainsNull.reference _ [] [] _ _ _ _ _ _ (by decide)
    · exact @Draft.Changes.added _ "hadith" [("book", .string (some "2"))] [] .null (by decide)
    · exact @Draft.Changes.member _ "reference" [("number", .string (some "1"))] [] _ _
    · exact @Draft.Changes.member _ "hadiths" [] [] _ _
  constructor
  · decide +kernel
  use hgains
  apply (read?_of_gainsNull hspells hspells' hgains).trans
  apply if_neg
  decide

/-- A null for the head of an edition, for the titles of its books or for the grades of an entry,
where otherwise there is nothing. -/
theorem not_read_of_nulls :
  (read? (Symbol.ofText "\x7b\"metadata\":\x7b\x7d,\"hadiths\":[\x7b\x7d]\x7d")).isSome ∧
    (read? (Symbol.ofText "\x7b\"hadiths\":[\x7b\x7d]\x7d")).isSome ∧
    (read? (Symbol.ofText "\x7b\"metadata\":null,\"hadiths\":[\x7b\x7d]\x7d")).isNone ∧
    (read? (Symbol.ofText
      "\x7b\"metadata\":\x7b\"section\":null\x7d,\"hadiths\":[\x7b\x7d]\x7d")).isNone ∧
    (read? (Symbol.ofText "\x7b\"hadiths\":[\x7b\"grades\":null\x7d]\x7d")).isNone
  := by
  decide +kernel

end Edition

end HadithService
