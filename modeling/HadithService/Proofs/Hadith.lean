import HadithService.Hadith
import HadithService.Proofs.Json.Written

/-!
# Hadiths that are read back

A hadith is written with a member for every field that is known, and from that text it is read back
as it was (`Hadith.reads_back`): whatever characters are in it, what is not known stays unknown, and
what is known and empty stays known.
-/

namespace HadithService.Hadith

/-- The fields of a hadith as they are written. -/
def written (h : Hadith) : List (String × Option Written) :=
  [("hadithNumber", some (.text h.number)), ("collection", some (.text h.collection)),
   ("bookName", some (.text h.bookName)), ("chapterName", some (.text h.chapterName)),
   ("hadithArabic", some (.text h.arabic)), ("hadithEnglish", h.english.map .text),
   ("grade", h.grade.map .text), ("narrator", h.narrator.map .text),
   ("source", some (.text h.source))]

theorem memberIf_string (name : String) (s? : Option String) :
  Json.memberIf name Tree.string s?
    = ((s?.map Written.text).map fun w => (name, w)).toList.map fun m => (m.1, m.2.json)
  := by
  cases s? with
  | none => rfl
  | some s => rfl

theorem toJson_eq (h : Hadith) :
  h.toJson = (Written.record h.written).json
  := by
  simp [toJson, Written.record, written, Written.present_cons, Written.present_nil,
    memberIf_string, Written.text]

/-- A hadith is read from the fields that are written of it. -/
theorem decoder_written (levels : Nat) (h : Hadith) :
  decoder (levels + 1) (Written.record h.written).draft = some h
  := by
  have hnodup : (h.written.map Prod.fst).Nodup := by simp [written]
  have hnumber : (Written.given levels h.written).required "hadithNumber" Decoder.text
      = some h.number := Written.required_text_given hnodup rfl
  have hcollection : (Written.given levels h.written).required "collection" Decoder.text
      = some h.collection := Written.required_text_given hnodup rfl
  have hbook : (Written.given levels h.written).required "bookName" Decoder.text
      = some h.bookName := Written.required_text_given hnodup rfl
  have hchapter : (Written.given levels h.written).required "chapterName" Decoder.text
      = some h.chapterName := Written.required_text_given hnodup rfl
  have harabic : (Written.given levels h.written).required "hadithArabic" Decoder.text
      = some h.arabic := Written.required_text_given hnodup rfl
  have henglish : (Written.given levels h.written).optional "hadithEnglish" Decoder.text
      = some h.english := Written.optional_given hnodup rfl
  have hgrade : (Written.given levels h.written).optional "grade" Decoder.text
      = some h.grade := Written.optional_given hnodup rfl
  have hnarrator : (Written.given levels h.written).optional "narrator" Decoder.text
      = some h.narrator := Written.optional_given hnodup rfl
  have hsource : (Written.given levels h.written).required "source" Decoder.text
      = some h.source := Written.required_text_given hnodup rfl
  apply (Written.structured_record hnodup).trans
  simp [hnumber, hcollection, hbook, hchapter, harabic, henglish, hgrade, hnarrator, hsource]

/-- A hadith that has been written is read back as it was. -/
theorem reads_back (h : Hadith) :
  read? h.toJson.render = some h
  := by
  rw [read?, toJson_eq, Written.whole?_render]
  apply decoder_written

end HadithService.Hadith
