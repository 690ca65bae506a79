/-
Expression trees from text, and formulas from expression trees.
-/
import BranchingTime.Expression.Statements
import BranchingTime.Fault

namespace BranchingTime.Expression

/-- The grammar of expressions whose parts are nested less than `depth` deep. -/
def grammar : (depth : Nat) → Grammar
  | 0 => .empty
  | depth + 1 =>
    let deeper := grammar depth
    { expression := expression deeper
      operand := operand deeper
      joined := joined deeper
      type := typeForm deeper
      bound := bound deeper
      pattern := pattern deeper
      early := early deeper
      statements := statements deeper
      declaration := declaration deeper
      imports := imports deeper
      fields := namedFields deeper }

/-- The tree of a whole text. A part is shorter than what it is a part of, so the
length of the text bounds how deep parts are nested. -/
def parse (text : String) : Except Stop Tree := do
  match Token.scan text with
  | none => throw .refused
  | some tokens =>
    match ← (((grammar (text.length + 1)).expression true).run tokens).run false with
    | ((tree, []), false) => return tree
    | _ => throw .refused

/-- Why a text is no formula. -/
inductive ReadError where
  /-- It is no expression. -/
  | noExpression
  | refused (error : TreeError)

/-- The formula that an expression stands for. A literal of an unknown kind breaks
reading off, and so does a type of functions that is too full. -/
def read (text : String) : Except Fault (Except ReadError Formula) :=
  match parse text with
  | .ok tree => .ok (tree.toFormula.mapError .refused)
  | .error .refused => .ok (.error .noExpression)
  | .error (.unrecognized literal) => .error (.unrecognizedLiteral literal)
  | .error .crowded => .error .crowdedParameters

end BranchingTime.Expression
