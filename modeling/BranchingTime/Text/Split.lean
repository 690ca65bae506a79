/-
Cutting text into parts: at every character of a kind, at the first occurrence
of a separator, and into lines.
-/

namespace BranchingTime.Text

/-- Put a character in front of the first part. -/
def ontoFirst (c : Char) : List (List Char) → List (List Char)
  | [] => [[c]]
  | part :: parts => (c :: part) :: parts

/-- The parts of a text between the characters that `p` picks: one more than there
are such characters. -/
def splitWhere (p : Char → Bool) : List Char → List (List Char)
  | [] => [[]]
  | c :: cs => if p c then [] :: splitWhere p cs else ontoFirst c (splitWhere p cs)

/-- The text before and after the first occurrence of a separator. -/
def cut? (separator : List Char) : List Char → Option (List Char × List Char)
  | [] => if separator.isEmpty then some ([], []) else none
  | c :: cs =>
    if separator.isPrefixOf (c :: cs) then some ([], (c :: cs).drop separator.length)
    else (cut? separator cs).map fun (before, after) => (c :: before, after)

/-- The line without the carriage return that it may end with. -/
def dropReturn (line : List Char) : List Char :=
  if line.getLast? = some '\r' then line.dropLast else line

/-- The lines of a text that has been split at the line feeds. A line feed ends its
line together with a carriage return before it; what follows the last one is a
line only if there is something. -/
def linesOf : List (List Char) → List (List Char)
  | [] => []
  | [last] => if last.isEmpty then [] else [last]
  | line :: rest => dropReturn line :: linesOf rest

/-- The lines of a text. -/
def lines (text : List Char) : List (List Char) := linesOf (splitWhere (· == '\n') text)

end BranchingTime.Text
