import HadithService.Text.CodeRanges

/-!
# Trimmed and sanitized texts

The blank characters are those with the Unicode property White_Space.  `trim` removes them at
both ends of a text and nowhere else; a text is blank when nothing is left of it.  Every text that a
client or a model supplies is trimmed, cut to a number of characters and freed of NUL characters,
in this order, before it is looked at (`sanitize`).
-/

namespace HadithService.Text

/-- The code points with the property White_Space. -/
def whiteSpace : CodeRanges where
  ranges :=
    [(0x9, 0xd), (0x20, 0x20), (0x85, 0x85), (0xa0, 0xa0), (0x1680, 0x1680), (0x2000, 0x200a),
     (0x2028, 0x2029), (0x202f, 0x202f), (0x205f, 0x205f), (0x3000, 0x3000)]

/-- A blank character. -/
def isBlank (c : Char) : Bool :=
  whiteSpace.has c

/-- The characters from the first one that is not blank. -/
def trimStart (cs : List Char) : List Char :=
  cs.dropWhile isBlank

/-- The characters up to the last one that is not blank. -/
def trimEnd (cs : List Char) : List Char :=
  (trimStart cs.reverse).reverse

/-- The characters without the blanks at either end. -/
def trimChars (cs : List Char) : List Char :=
  trimEnd (trimStart cs)

/-- Neither the first character nor the last one is blank. -/
def IsTrimmed (cs : List Char) : Prop :=
  (∀ c ∈ cs.head?, isBlank c = false) ∧ ∀ c ∈ cs.getLast?, isBlank c = false

/-- What is left of a text without the blanks at either end. -/
def TrimsTo (cs core : List Char) : Prop :=
  ∃ before after, cs = before ++ core ++ after ∧ before.all isBlank ∧ after.all isBlank ∧
    IsTrimmed core

/-- A text without the blanks at either end. -/
def trim (s : String) : String :=
  String.ofList (trimChars s.toList)

/-- A text of nothing but blanks. -/
def isBlankText (s : String) : Bool :=
  s.toList.all isBlank

/-- A text unless it is blank. -/
def unlessBlank (s : String) : Option String :=
  if isBlankText s then none else some s

/-- The trimmed characters, at most `limit` of them, without NUL. -/
def sanitizeChars (limit : Nat) (cs : List Char) : List Char :=
  ((trimChars cs).take limit).filter fun c => c != '\x00'

/-- A text trimmed, cut to `limit` characters and freed of NUL. -/
def sanitize (limit : Nat) (s : String) : String :=
  String.ofList (sanitizeChars limit s.toList)

end HadithService.Text
