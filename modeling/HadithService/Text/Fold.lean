import HadithService.Text.LetterCase

/-!
# Folding

Arabic texts come with and without their vowel signs.  `stripDiacritics` removes the vowel
signs, the recitation marks and the elongation stroke; `fold` also lowers the letters, so that
vocalised and plain, upper-case and lower-case spellings of a text fold to the same one.
-/

namespace HadithService.Text

/-- The code points of the vowel signs, the recitation marks and the elongation stroke. -/
def diacritics : CodeRanges where
  ranges :=
    [(0x610, 0x61a), (0x640, 0x640), (0x64b, 0x65f), (0x670, 0x670), (0x6d6, 0x6ed)]

/-- A sign that does not count when texts are compared. -/
def isDiacritic (c : Char) : Bool :=
  diacritics.has c

/-- The characters that are not diacritics. -/
def stripChars (cs : List Char) : List Char :=
  cs.filter fun c => !isDiacritic c

/-- A text without its diacritics. -/
def stripDiacritics (s : String) : String :=
  String.ofList (stripChars s.toList)

/-- The characters of a text, without diacritics and in lower case. -/
def foldChars (cs : List Char) : List Char :=
  lowerChars (stripChars cs)

/-- A text without diacritics and in lower case. -/
def fold (s : String) : String :=
  String.ofList (foldChars s.toList)

end HadithService.Text
