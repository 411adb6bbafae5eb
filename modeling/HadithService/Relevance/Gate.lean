import HadithService.Relevance.Pattern
import HadithService.Text.LetterCase
import HadithService.Text.Words

/-!
# Relevance

Whether a question belongs to a conversation about a hadith is decided in three stages.  A
question of a kind that is denied is not relevant.  Any other question with a word that asks for
an explanation is.  What remains is relevant to a hadith with religious words in it if it shares
a word with the hadith, or if it has three words at least.  Only words of three characters or
more count, and the commonest words of the hadith do not.
-/

namespace HadithService.Relevance

open Pattern (word anyOf inOrder many maybe atStart)

/-- The sums, jokes, subjects and greetings that are denied. -/
def denied : List Pattern :=
  let digits := many (.one .digit)
  let blanks := Pattern.star (.one .blank)
  let gap := many (.one .blank)
  let words (ws : List String) := anyOf (ws.map word)
  [inOrder [digits, blanks, .one (.oneOf ['+', '-', '*', '/']), blanks, digits],
   atStart (inOrder [word "tell", gap, maybe (inOrder [word "me", gap]), word "a", gap,
     word "joke"]),
   atStart (words ["weather", "temperature", "climate"]),
   atStart (words ["football", "soccer", "sports match", "game result"]),
   atStart (words ["recipe", "cooking", "food", "restaurant", "drink"]),
   atStart (words ["movie", "film", "actor", "actress", "hollywood", "cinema"]),
   atStart (words ["password", "login", "hack", "malware", "virus"]),
   atStart (words ["love you", "love me", "marry", "girlfriend", "boyfriend", "dating"]),
   atStart (words ["random", "blah", "yapping", "nonsense", "stupid"]),
   words ["hello", "hi", "how are you", "good morning", "good night"]]

/-- The words that ask for an explanation. -/
def allowedTerms : List String :=
  ["اشرح", "شرح", "وضح", "بين", "أوضح", "اشرح لي", "شرح أكثر", "اشرح أكثر",
   "فسر", "تفسير", "معنى", "ما معنى", "كيف", "لماذا", "هل", "ما", "من", "أين",
   "explain", "clarify", "understand", "more", "please", "tell us", "elaborate",
   "عليك", "يمكنك", "هل يمكنك", "فضلاً", "أكثر", "قليلا"]

/-- The words that make a text a religious one. -/
def religiousTerms : List String :=
  ["حديث", "نبي", "رسول", "سنة", "إسلام", "دين", "شريف", "معنى", "تفسير"]

/-- The words of a hadith that do not count. -/
def stopWords : List String :=
  ["في", "من", "عن", "إن", "هو", "هي", "هم", "و", "ل", "ال", "أن", "إلى"]

/-- The least number of characters of a word that counts. -/
def wordLength : Nat := 3

/-- The number of words from which on a question is long. -/
def longQuestion : Nat := 3

/-- A character between words. -/
def isSeparator (c : Char) : Bool :=
  Text.isBlank c || ['-', '(', ')', '،', '.'].contains c

/-- The words of a text that are long enough to count. -/
def longWords (cs : List Char) : List (List Char) :=
  (Text.words isSeparator cs).filter fun w => wordLength ≤ w.length

/-- Whether one of some terms stands in a text. -/
def mentionsAny (terms : List String) (cs : List Char) : Bool :=
  terms.any fun t => Text.runsIn t.toList cs

/-- A question as it is compared: trimmed and in lower case. -/
def questionForm (question : String) : List Char :=
  Text.lowerChars (Text.trimChars question.toList)

/-- Whether a question is of a kind that is denied. -/
def isDenied (question : List Char) : Bool :=
  denied.any fun p => p.accepts question

/-- Whether two words share letters: one of them stands in the other. -/
def isAkin (v w : List Char) : Bool :=
  Text.runsIn v w || Text.runsIn w v

/-- Whether a question shares a word with a hadith, or is long. -/
def isClose (question hadith : List Char) : Bool :=
  let asked := longWords question
  let told := (longWords hadith).filter fun w => !stopWords.contains (String.ofList w)
  asked.any (fun v => told.any (isAkin v)) || longQuestion ≤ asked.length

/-- Whether a question belongs to a conversation about a hadith. -/
def isRelevant (question hadith : String) : Bool :=
  let asked := questionForm question
  let told := Text.lowerChars hadith.toList
  if isDenied asked then false
  else if mentionsAny allowedTerms asked then true
  else mentionsAny religiousTerms told && isClose asked told

end HadithService.Relevance
