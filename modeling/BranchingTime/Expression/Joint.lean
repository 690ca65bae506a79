/-
What joins two expressions, and how strongly. Operators bind, from the strongest to
the weakest: type casts; then `* / %`, `+ -`, `<< >>`, `&`, `^`, `|`, comparisons,
`&&` and `||`, all of which nest to the left; ranges; and assignments, which nest to
the right. Prefixed operators, calls, fields and indices bind more strongly.
-/
import BranchingTime.Expression.Token
import BranchingTime.Expression.Tree

namespace BranchingTime.Expression

/-- What joins the expression before it to the one after it. -/
inductive Joint where
  | operator (op : Operator)
  | assignment
  | range
  | cast

/-- How strongly something binds. -/
abbrev Strength := Nat

def Operator.strength : Operator → Strength
  | .or => 3
  | .and => 4
  | .eq | .ne | .lt | .le | .gt | .ge => 5
  | .bitOr => 6
  | .bitXor => 7
  | .bitAnd => 8
  | .shl | .shr => 9
  | .add | .sub => 10
  | .mul | .div | .rem => 11

namespace Joint

def strength : Joint → Strength
  | assignment => 1
  | range => 2
  | operator op => op.strength
  | cast => 12

/-- The expression that a joint makes of two. -/
def combine : Joint → Tree → Tree → Tree
  | operator op, left, right => .binary op left right
  | range, _, _ => .range
  | _, _, _ => .other

end Joint

/-- What follows marks that spell a symbol; all but the last are joined. -/
def afterSymbol? : List Char → List Token → Option (List Token)
  | [], rest => some rest
  | [c], .mark m _ :: rest => if m == c then some rest else none
  | c :: cs, .mark m true :: rest => if m == c then afterSymbol? cs rest else none
  | _, _ => none

/-- Whether the tokens start with marks that spell a symbol. -/
def isAt (symbol : String) (tokens : List Token) : Bool :=
  (afterSymbol? symbol.toList tokens).isSome

/-- The symbols between two expressions, longer ones before their beginnings. -/
def symbols : List (String × Joint) :=
  [("+=", .assignment), ("-=", .assignment), ("*=", .assignment), ("/=", .assignment),
    ("%=", .assignment), ("^=", .assignment), ("&=", .assignment), ("|=", .assignment),
    ("<<=", .assignment), (">>=", .assignment),
    ("&&", .operator .and), ("||", .operator .or), ("<<", .operator .shl),
    (">>", .operator .shr), ("==", .operator .eq), ("<=", .operator .le),
    ("!=", .operator .ne), (">=", .operator .ge), ("+", .operator .add),
    ("-", .operator .sub), ("*", .operator .mul), ("/", .operator .div),
    ("%", .operator .rem), ("^", .operator .bitXor), ("&", .operator .bitAnd),
    ("|", .operator .bitOr), ("<", .operator .lt), (">", .operator .gt),
    ("..=", .range), ("...", .range), ("..", .range)]

/-- The joint at the start of the tokens, and what follows it. -/
def joint? (tokens : List Token) : Option (Joint × List Token) :=
  match symbols.findSome? fun (symbol, joint) =>
      (afterSymbol? symbol.toList tokens).map (joint, ·) with
  | some found => some found
  | none =>
    match tokens with
    | .mark '=' _ :: rest => if isAt "=>" tokens then none else some (.assignment, rest)
    | .mark ':' _ :: rest => if isAt "::" tokens then none else some (.cast, rest)
    | .word "as" :: rest => some (.cast, rest)
    | _ => none

/-- The strength of the joint at the start of the tokens, 0 if there is none. -/
def nextStrength (tokens : List Token) : Strength :=
  match joint? tokens with
  | some (joint, _) => joint.strength
  | none => 0

end BranchingTime.Expression
