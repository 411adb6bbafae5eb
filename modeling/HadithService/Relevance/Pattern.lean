import HadithService.Text.Alphanumeric
import HadithService.Text.Sanitize

/-!
# Patterns

Regular expressions over classes of characters.  `Pattern.Matches` says which texts a pattern
describes; `Pattern.accepts` decides it, by taking one character after another off the text and
off the pattern.  Letters match in either case, and so do the two signs that fold to one: the
long s and the sign for the kelvin.
-/

namespace HadithService

/-- A class of characters. -/
inductive CharClass where
  | any
  | digit
  | blank
  | oneOf (cs : List Char)
  | letter (c : Char)
deriving DecidableEq, Repr

/-- The letter that a character is, whatever its case. -/
def foldedLetter (c : Char) : Char :=
  if 'A' ≤ c && c ≤ 'Z' then Char.ofNat (c.toNat + 32)
  else if c == 'ſ' then 's'
  else if c == '\u212a' then 'k'
  else c

/-- Whether a character is of a class. -/
def CharClass.has : CharClass → Char → Bool
  | .any, _ => true
  | .digit, x => Text.isDecimalDigit x
  | .blank, x => Text.isBlank x
  | .oneOf cs, x => cs.contains x
  | .letter c, x => foldedLetter x == c

/-- A regular expression. -/
inductive Pattern where
  | nothing
  | empty
  | one (k : CharClass)
  | seq (p q : Pattern)
  | alt (p q : Pattern)
  | star (p : Pattern)
deriving DecidableEq, Repr

namespace Pattern

/-- The texts that a pattern describes. -/
inductive Matches : Pattern → List Char → Prop where
  | empty : Matches .empty []
  | one {k : CharClass} {c : Char} (h : k.has c = true) : Matches (.one k) [c]
  | seq {p q : Pattern} {s t : List Char} (hp : Matches p s) (hq : Matches q t) :
    Matches (.seq p q) (s ++ t)
  | left {p q : Pattern} {s : List Char} (h : Matches p s) : Matches (.alt p q) s
  | right {p q : Pattern} {s : List Char} (h : Matches q s) : Matches (.alt p q) s
  | done {p : Pattern} : Matches (.star p) []
  | again {p : Pattern} {s t : List Char} (hp : Matches p s) (ht : Matches (.star p) t) :
    Matches (.star p) (s ++ t)

/-- Whether a pattern describes the empty text. -/
def isNullable : Pattern → Bool
  | .nothing => false
  | .empty => true
  | .one _ => false
  | .seq p q => p.isNullable && q.isNullable
  | .alt p q => p.isNullable || q.isNullable
  | .star _ => true

/-- A sequence, in its simplest form. -/
def followedBy : Pattern → Pattern → Pattern
  | .nothing, _ => .nothing
  | _, .nothing => .nothing
  | .empty, q => q
  | p, q => .seq p q

/-- A choice, in its simplest form. -/
def either : Pattern → Pattern → Pattern
  | .nothing, q => q
  | p, .nothing => p
  | p, q => if p = q then p else .alt p q

/-- The pattern of what may follow a character. -/
def after (c : Char) : Pattern → Pattern
  | .nothing => .nothing
  | .empty => .nothing
  | .one k => if k.has c then .empty else .nothing
  | .seq p q =>
    if p.isNullable then either (followedBy (p.after c) q) (q.after c) else followedBy (p.after c) q
  | .alt p q => either (p.after c) (q.after c)
  | .star p => followedBy (p.after c) (.star p)

/-- Whether a pattern describes a text. -/
def accepts (p : Pattern) : List Char → Bool
  | [] => p.isNullable
  | c :: rest => (p.after c).accepts rest

/-- A word, in any case. -/
def word (s : String) : Pattern :=
  s.toList.foldr (fun c p => .seq (.one (.letter c)) p) .empty

/-- One of several patterns. -/
def anyOf (ps : List Pattern) : Pattern :=
  ps.foldr Pattern.alt .nothing

/-- Several patterns, one after another. -/
def inOrder (ps : List Pattern) : Pattern :=
  ps.foldr Pattern.seq .empty

/-- A pattern once or more. -/
def many (p : Pattern) : Pattern :=
  .seq p (.star p)

/-- A pattern once or not at all. -/
def maybe (p : Pattern) : Pattern :=
  .alt p .empty

/-- The texts that start with what a pattern describes. -/
def atStart (p : Pattern) : Pattern :=
  .seq p (.star (.one .any))

end Pattern

end HadithService
