/-!
# Words and occurrences

`words` cuts a text at separators and keeps the pieces that are not empty, so a word is a
longest run of characters none of which separates.  `runsIn` looks for a list of items, such as the
characters of a text or its words, inside another list.
-/

namespace HadithService.Text

variable {α : Type}

/-- The pieces of a list between separators, the empty ones included; there is one more of them
than there are separators. -/
def pieces (isSeparator : α → Bool) : List α → List (List α)
  | [] => [[]]
  | c :: rest =>
    match pieces isSeparator rest with
    | [] => [[c]]
    | piece :: others =>
      if isSeparator c then [] :: piece :: others else (c :: piece) :: others

/-- The pieces of a list between separators that are not empty. -/
def words (isSeparator : α → Bool) (cs : List α) : List (List α) :=
  (pieces isSeparator cs).filter fun piece => !piece.isEmpty

variable [BEq α]

/-- Whether the items `part` stand side by side somewhere in a list. -/
def runsIn (part : List α) : List α → Bool
  | [] => part.isEmpty
  | x :: rest => part.isPrefixOf (x :: rest) || runsIn part rest

/-- Whether a text stands inside another. -/
def occursIn (part whole : String) : Bool :=
  runsIn part.toList whole.toList

end HadithService.Text
