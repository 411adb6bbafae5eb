import HadithService.Hadith
import HadithService.Text.Sanitize

/-!
# The arrangement of results

The same text often comes from several editions.  `arrange` keeps the first hadith of every
text and orders the ones it keeps by their numbers; equal numbers stay in the order they came.
-/

namespace HadithService.Search

/-- The number that a text starts with, zero if there is none or if it is too large for 64
bits. -/
def leadingNumber (s : String) : Nat :=
  let n := Nat.ofDigitChars 10 ((Text.trimChars s.toList).takeWhile Char.isDigit) 0
  if n < UInt64.size then n else 0

/-- What two hadiths with the same text have in common. -/
def textKey (h : Hadith) : String :=
  Text.trim h.arabic

/-- The hadiths whose text was not seen, neither before nor earlier in the list. -/
def unseen : List String → List Hadith → List Hadith
  | _, [] => []
  | seen, h :: rest =>
    if seen.contains (textKey h) then unseen seen rest
    else h :: unseen (textKey h :: seen) rest

/-- Whether a hadith may stand before another. -/
def numberLe (h k : Hadith) : Bool :=
  leadingNumber h.number ≤ leadingNumber k.number

/-- The first hadith of every text, by number. -/
def arrange (hadiths : List Hadith) : List Hadith :=
  (unseen [] hadiths).mergeSort numberLe

end HadithService.Search
