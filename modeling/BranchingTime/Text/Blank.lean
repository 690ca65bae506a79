/-
Character classes given by tables of code points, and the first of them: white space
(the Unicode property `White_Space`). Text is trimmed of it at both ends and split into
words, and a line that has nothing else, or starts with `#`, is a comment.
-/
import BranchingTime.Text.Split

namespace BranchingTime.Text

/-- A table of code points: the ranges of a class in ascending order, each with its
first and its last code point. -/
abbrev Ranges := List (Nat × Nat)

/-- Whether a code point is in one of the ranges. The ranges ascend, so the search
ends at the first one that starts later. -/
def Ranges.covers : Ranges → Nat → Bool
  | [], _ => false
  | (first, last) :: rest, code =>
    if code < first then false else code ≤ last || Ranges.covers rest code

/-- The code points with the property `White_Space`. -/
def blankRanges : Ranges := [
  (0x9, 0xd), (0x20, 0x20), (0x85, 0x85), (0xa0, 0xa0), (0x1680, 0x1680), (0x2000, 0x200a),
  (0x2028, 0x2029), (0x202f, 0x202f), (0x205f, 0x205f), (0x3000, 0x3000)]

def isBlank (c : Char) : Bool := blankRanges.covers c.toNat

/-- The text without blanks at its end. -/
def trimEnd (cs : List Char) : List Char := (cs.reverse.dropWhile isBlank).reverse

/-- The text without blanks at either end. -/
def trim (cs : List Char) : List Char := trimEnd (cs.dropWhile isBlank)

/-- The longest parts of a text that have no blank in them. -/
def words (cs : List Char) : List (List Char) := (splitWhere isBlank cs).filter (!·.isEmpty)

/-- Whether a line says nothing: it is blank, or a comment. -/
def isIgnored (line : List Char) : Bool :=
  match trim line with
  | [] => true
  | c :: _ => c == '#'

end BranchingTime.Text
