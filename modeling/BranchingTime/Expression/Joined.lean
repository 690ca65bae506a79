/-
Expressions of operands and the joints between them.
-/
import BranchingTime.Expression.Operands

namespace BranchingTime.Expression

open Reader

/-- The right operand of a joint: `right` and what binds it more strongly than the
joint does, in less than `steps` steps. Assignments nest to the right. -/
def rightOperandSteps (deeper : Grammar) (braces : Bool) (strength : Strength) :
    (steps : Nat) → (right : Tree) → Reader Tree
  | 0, _ => refuse
  | steps + 1, right => do
    let next := nextStrength (← get)
    if next > strength || (next == strength && strength == Joint.assignment.strength) then
      rightOperandSteps deeper braces strength steps (← deeper.joined braces right next)
    else return right

/-- The right operand of a joint. -/
def rightOperand (deeper : Grammar) (braces : Bool) (strength : Strength) : Reader Tree := do
  let right ← operand deeper braces
  rightOperandSteps deeper braces strength ((← get).length + 1) right

/-- What may not come directly after a cast: calls, fields and indices. -/
def isAtPostfixed (tokens : List Token) : Bool :=
  (isAt "." tokens && !isAt ".." tokens) || isAt "?" tokens || isAtGroup .square tokens ||
    isAtGroup .round tokens

/-- The expression that starts with `left` and goes on with joints of the given
strength at least, less than `steps` of them. -/
def joinedSteps (deeper : Grammar) (braces : Bool) (least : Strength) :
    (steps : Nat) → (left : Tree) → Reader Tree
  | 0, _ => refuse
  | steps + 1, left => do
    match joint? (← get) with
    | none => return left
    | some (joint, rest) =>
      if joint.strength < least then return left
      else
        set rest
        match joint with
        | .cast =>
          discard (deeper.type false)
          if isAtPostfixed (← get) then refuse
          joinedSteps deeper braces least steps .other
        | .range =>
          rangeEnd braces (rightOperand deeper braces joint.strength)
          joinedSteps deeper braces least steps .range
        | joint =>
          let right ← rightOperand deeper braces joint.strength
          joinedSteps deeper braces least steps (joint.combine left right)

/-- The expression that starts with `left` and goes on with joints of the given
strength at least. -/
def joined (deeper : Grammar) (braces : Bool) (left : Tree) (least : Strength) : Reader Tree := do
  joinedSteps deeper braces least ((← get).length + 1) left

def expression (deeper : Grammar) (braces : Bool) : Reader Tree := do
  joined deeper braces (← operand deeper braces) 0

/-- Whether an expression at the start of a statement ends with a block. -/
def isAtBlock : List Token → Bool
  | .word "for" :: .mark '<' _ :: .label :: _
  | .word "for" :: .mark '<' _ :: .mark '>' _ :: _ => false
  | .word "if" :: _ | .word "while" :: _ | .word "for" :: _ | .word "loop" :: _ | .word "match" :: _
  | .word "unsafe" :: _ | .word "const" :: _ | .group .curly _ :: _
  | .word "try" :: .group .curly _ :: _ => true
  | _ => false

/-- An expression at the start of a statement: one that ends with a block ends there,
unless a field of it is selected. -/
def early (deeper : Grammar) : Reader Tree := do
  attributes
  if isAtBlock (← get) then
    let tree ← atom deeper true
    let tokens ← get
    if (isAt "." tokens && !isAt ".." tokens) || isAt "?" tokens then
      joined deeper true (← postfixed deeper tree) 0
    else return tree
  else expression deeper true

end BranchingTime.Expression
