import HadithService.Hadith
import HadithService.Text.Sanitize

/-!
# Editions

An edition is a whole collection of hadiths in one language, as the public archive of editions
publishes it.  The documents are not uniform: numbers come as numbers or texts, books and
chapters as objects, titles or numbers, and several fields have more than one name.
`Edition.decoder` reads them all, and `Edition.hadiths` turns an edition into hadiths, leaving
out the entries that have no text worth the name.
-/

namespace HadithService

/-- The number of a hadith or a book, which is a number or a text. -/
inductive Numbering where
  | number (bits : UInt64)
  | text (s : String)
deriving DecidableEq, Repr

/-- A number as it is shown: in positional notation, or the text without blanks around it. -/
def Numbering.label : Numbering → String
  | .number bits => Decimal.positional bits
  | .text s => Text.trim s

/-- Where an entry stands in its collection. -/
structure Reference where
  book : Option Numbering
  hadith : Option Numbering

/-- An entry of an edition.  Of the grades the texts are kept, of a book or a chapter the name,
if it has one. -/
structure Entry where
  hadithNumber : Option Numbering
  number : Option Numbering
  text : Option String
  english : Option String
  translation : Option String
  grades : List String
  grade : Option String
  reference : Option Reference
  book : Option (Option String)
  bookName : Option String
  chapter : Option (Option String)
  chapterName : Option String
  narrator : Option String
  reporter : Option String

/-- What an edition says about itself: its name and the titles of its books. -/
structure EditionHead where
  name : Option String
  sections : List (String × String)

/-- An edition. -/
structure Edition where
  head : EditionHead
  collectionName : Option String
  entries : List Entry

namespace Numbering

/-- Reads a number, which may be written as a number or as a text. -/
def decoder : Decoder Numbering :=
  Decoder.firstOf
    [fun levels v => (Decoder.real levels v).map Numbering.number,
     fun levels v => (Decoder.text levels v).map Numbering.text]

end Numbering

namespace Entry

/-- Reads a grade, which is an object with a grade or the grade itself. -/
def gradeDecoder : Decoder String :=
  Decoder.firstOf [Decoder.object ["grade"] fun f => f.required "grade" Decoder.text, Decoder.text]

/-- Reads the name of a book or a chapter, which is a structure with a name, the name itself, or
anything else, which has no name. -/
def nameDecoder : Decoder (Option String) :=
  Decoder.firstOf
    [Decoder.structured ["name"] fun f => f.optional "name" Decoder.text,
     Decoder.nullable Decoder.text,
     fun _ _ => some none]

/-- Reads a reference. -/
def referenceDecoder : Decoder Reference :=
  Decoder.structured ["book", "hadith"] fun f => do
    let book ← f.optional "book" Numbering.decoder
    let hadith ← f.optional "hadith" Numbering.decoder
    return ⟨book, hadith⟩

/-- Reads an entry. -/
def decoder : Decoder Entry :=
  Decoder.structured
    ["hadithnumber", "number", "text", "english", "translation", "grades", "grade", "reference",
     "book", "bookName", "chapter", "chapterName", "narrator", "reporter"]
    fun f => do
      let hadithNumber ← f.optional "hadithnumber" Numbering.decoder
      let number ← f.optional "number" Numbering.decoder
      let text ← f.optional "text" Decoder.text
      let english ← f.optional "english" Decoder.text
      let translation ← f.optional "translation" Decoder.text
      let grades ← f.withDefault "grades" (Decoder.list gradeDecoder) []
      let grade ← f.optional "grade" Decoder.text
      let reference ← f.optional "reference" referenceDecoder
      let book ← f.optional "book" nameDecoder
      let bookName ← f.optional "bookName" Decoder.text
      let chapter ← f.optional "chapter" nameDecoder
      let chapterName ← f.optional "chapterName" Decoder.text
      let narrator ← f.optional "narrator" Decoder.text
      let reporter ← f.optional "reporter" Decoder.text
      return { hadithNumber, number, text, english, translation, grades, grade, reference, book,
               bookName, chapter, chapterName, narrator, reporter }

end Entry

namespace Edition

/-- Reads what an edition says about itself. -/
def headDecoder : Decoder EditionHead :=
  Decoder.structured ["name", "section"] fun f => do
    let name ← f.optional "name" Decoder.text
    let sections ← f.withDefault "section" (Decoder.table Decoder.text) []
    return ⟨name, sections⟩

/-- Reads an edition. -/
def decoder : Decoder Edition :=
  Decoder.structured ["metadata", "collection_name", "hadiths"] fun f => do
    let head ← f.withDefault "metadata" headDecoder ⟨none, []⟩
    let collectionName ← f.optional "collection_name" Decoder.text
    let entries ← f.required "hadiths" (Decoder.list Entry.decoder)
    return ⟨head, collectionName, entries⟩

/-- The edition that a document is. -/
def read? (document : List Symbol) : Option Edition :=
  (Draft.whole? document).bind decoder.run

/-- Where all hadiths come from. -/
def sourceName : String := "fawazahmed0"

/-- Entries whose trimmed text has no more characters than this are left out. -/
def shortText : Nat := 10

/-- Whether an edition is in Arabic, by its identifier. -/
def isArabic (slug : String) : Bool :=
  "ara-".toList.isPrefixOf slug.toList

/-- A text, if there is one and it is not blank. -/
def unlessBlank (s : Option String) : Option String :=
  s.bind Text.unlessBlank

/-- The name of the collection. -/
def collection (e : Edition) (slug : String) : String :=
  (unlessBlank (e.head.name <|> e.collectionName)).getD slug

/-- The title of a book, of several the last one given. -/
def sectionTitle (e : Edition) (book : Numbering) : Option String :=
  (e.head.sections.reverse.find? fun s => s.1 == book.label).map Prod.snd

end Edition

namespace Entry

open Edition (unlessBlank)

/-- The text of an entry. -/
def body (r : Entry) : Option String :=
  unlessBlank r.text <|> unlessBlank r.english <|> unlessBlank r.translation

/-- The name of the book an entry stands in, in the edition `e`. -/
def bookTitle (r : Entry) (e : Edition) : String :=
  let fromSection := (r.reference.bind Reference.book).bind e.sectionTitle
  (r.book.join <|> r.bookName <|> fromSection).getD ""

/-- The hadith of an entry of the edition `e`, unless its text is too short. -/
def hadith? (e : Edition) (slug : String) (r : Entry) : Option Hadith :=
  match r.body with
  | none => none
  | some text =>
    if (Text.trimChars text.toList).length ≤ Edition.shortText then none
    else
      some {
        number := ((r.hadithNumber <|> r.number).map Numbering.label).getD ""
        collection := e.collection slug
        bookName := r.bookTitle e
        chapterName := (r.chapter.join <|> r.chapterName).getD ""
        arabic := text
        english := if Edition.isArabic slug then none else some text
        grade := unlessBlank (r.grades.head? <|> r.grade)
        narrator := unlessBlank r.narrator <|> unlessBlank r.reporter
        source := Edition.sourceName }

end Entry

/-- The hadiths of an edition that was published under an identifier. -/
def Edition.hadiths (e : Edition) (slug : String) : List Hadith :=
  e.entries.filterMap (Entry.hadith? e slug)

end HadithService
