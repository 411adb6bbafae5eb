import HadithService.Json.Decoder

/-!
# Hadiths

A hadith as it is served: its number in the collection, the collection, book and chapter it
stands in, its text and, where they are known, a translation, a grade and a narrator.
`Hadith.toJson` and `Hadith.decoder` are its form in JSON; what is not known has no member there.
-/

namespace HadithService

/-- A hadith with its place in a collection. -/
structure Hadith where
  number : String
  collection : String
  bookName : String
  chapterName : String
  arabic : String
  english : Option String
  grade : Option String
  narrator : Option String
  source : String
deriving DecidableEq, Repr

namespace Hadith

/-- A hadith as a JSON value. -/
def toJson (h : Hadith) : Json :=
  .object <|
    [("hadithNumber", .string h.number), ("collection", .string h.collection),
     ("bookName", .string h.bookName), ("chapterName", .string h.chapterName),
     ("hadithArabic", .string h.arabic)]
    ++ Json.memberIf "hadithEnglish" Tree.string h.english
    ++ Json.memberIf "grade" Tree.string h.grade
    ++ Json.memberIf "narrator" Tree.string h.narrator
    ++ [("source", .string h.source)]

/-- Reads a hadith. -/
def decoder : Decoder Hadith :=
  Decoder.structured
    ["hadithNumber", "collection", "bookName", "chapterName", "hadithArabic", "hadithEnglish",
     "grade", "narrator", "source"]
    fun f => do
      let number ← f.required "hadithNumber" Decoder.text
      let collection ← f.required "collection" Decoder.text
      let bookName ← f.required "bookName" Decoder.text
      let chapterName ← f.required "chapterName" Decoder.text
      let arabic ← f.required "hadithArabic" Decoder.text
      let english ← f.optional "hadithEnglish" Decoder.text
      let grade ← f.optional "grade" Decoder.text
      let narrator ← f.optional "narrator" Decoder.text
      let source ← f.required "source" Decoder.text
      return ⟨number, collection, bookName, chapterName, arabic, english, grade, narrator, source⟩

/-- The hadith that a JSON text is. -/
def read? (text : String) : Option Hadith :=
  (Draft.whole? (Symbol.ofText text)).bind decoder.run

end Hadith

end HadithService
