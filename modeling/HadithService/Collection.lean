import HadithService.Text.Alphanumeric
import HadithService.Text.Fold
import HadithService.Text.Sanitize
import HadithService.Text.Words

/-!
# Collections

The great collections are known under several names in English and Arabic.  `resolve` takes a
name that was given as the name of a collection, `detect` looks for one among the words of a
free text.  Of several names in a text the one that comes first in the table wins.
-/

namespace HadithService.Collection

/-- The names of the collections, each with the identifier of the edition it stands for. -/
def aliases : List (String × String) :=
  [("bukhari", "ara-bukhari"),
   ("sahih_bukhari", "ara-bukhari"),
   ("البخاري", "ara-bukhari"),
   ("muslim", "ara-muslim"),
   ("sahih_muslim", "ara-muslim"),
   ("مسلم", "ara-muslim"),
   ("tirmidhi", "ara-tirmidhi"),
   ("الترمذي", "ara-tirmidhi"),
   ("abudawud", "ara-abudawud"),
   ("abu_dawood", "ara-abudawud"),
   ("أبو داود", "ara-abudawud"),
   ("nasai", "ara-nasai"),
   ("النسائي", "ara-nasai"),
   ("ibnmajah", "ara-ibnmajah"),
   ("ibn_majah", "ara-ibnmajah"),
   ("ابن ماجه", "ara-ibnmajah"),
   ("malik", "ara-malik"),
   ("مالك", "ara-malik"),
   ("ahmad", "ara-ahmad"),
   ("أحمد", "ara-ahmad")]

/-- The editions that are searched when no collection is named, in the order of their weight. -/
def topicEditions : List String :=
  ["ara-bukhari", "ara-muslim", "ara-abudawud", "ara-tirmidhi", "ara-nasai", "ara-ibnmajah",
   "ara-malik"]

/-- The edition that a name stands for, if it is in the table. -/
def lookup (name : String) : Option String :=
  (aliases.find? fun a => a.1 == Text.lowercase (Text.trim name)).map Prod.snd

/-- The edition that a name stands for.  A name that is not in the table is an identifier. -/
def resolve (name : String) : String :=
  (lookup name).getD (Text.trim name)

/-- The words of a text, folded. -/
def wordsOf (s : String) : List (List Char) :=
  Text.words (fun c => !Text.isAlphanumeric c) (Text.foldChars s.toList)

/-- The edition whose name stands among the words of a text, all words of the name side by
side. -/
def detect (query : String) : Option String :=
  (aliases.find? fun a =>
    let name := wordsOf a.1
    !name.isEmpty && Text.runsIn name (wordsOf query)).map Prod.snd

end HadithService.Collection
