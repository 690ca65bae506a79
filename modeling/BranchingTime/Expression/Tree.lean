/-
Formulas in operator notation. An expression tree of literals, names, operators
and calls is read as a formula by a fixed table: propositions are names or quoted
texts, connectives are operators or functions, and temporal operators are
functions. Everything else in an expression is refused.
-/
import BranchingTime.Formula.Basic

namespace BranchingTime.Expression

/-- The operators between two operands. -/
inductive Operator where
  | add | sub | mul | div | rem
  | and | or
  | bitXor | bitAnd | bitOr
  | shl | shr
  | eq | ne | lt | le | gt | ge
deriving DecidableEq

inductive Tree where
  | truth (value : Bool)
  /-- A quoted text. -/
  | text (value : String)
  /-- A single name. -/
  | word (name : String)
  /-- A path of several names, or one from the root. -/
  | path
  /-- An operand after `!` or `-`. -/
  | negated (operand : Tree)
  | binary (op : Operator) (left right : Tree)
  | parenthesized (inner : Tree)
  | call (callee : Tree) (arguments : List Tree)
  /-- A block, or a form that ends with one. -/
  | block
  /-- An interval. -/
  | range
  /-- Any other expression. -/
  | other
deriving Inhabited

/-- Why an expression is no formula. -/
inductive TreeError where
  | invalidProposition
  | unknownOperator (op : Operator)
  | invalidFunction (callee : Tree)
  | unknownFunction (name : String)
  | wrongArity (name : String)
  | invalidExpression (tree : Tree)

namespace TreeError

/-- The text of an error. An operator or a tree that it is about does not stand in it. -/
def message : TreeError → String
  | invalidProposition => "Invalid atomic proposition"
  | unknownOperator _ => "Unknown binary operator"
  | invalidFunction _ => "Invalid function"
  | unknownFunction name => s!"Invalid function name: {name}"
  | wrongArity name => s!"Invalid number of arguments for \"{name}\""
  | invalidExpression _ => "Invalid expression"

end TreeError

namespace Operator

/-- The connective that an operator stands for. -/
def connective? : Operator → Option (Formula → Formula → Formula)
  | add | or | bitOr => some .disj
  | mul | and | bitAnd => some .conj
  | eq => some .iff
  | shr | gt => some .imp
  | shl | lt | le => some fun f g => .imp g f
  | sub | div | rem | bitXor | ne | ge => none

end Operator

/-- A function that makes a formula of its arguments. -/
inductive Function where
  /-- Of one argument. -/
  | unary (name : String) (apply : Formula → Formula)
  /-- Of two arguments. -/
  | binary (name : String) (apply : Formula → Formula → Formula)
  /-- Of one argument or more, nested to the left. -/
  | chained (name : String) (apply : Formula → Formula → Formula)

namespace Function

def ofName? : String → Option Function
  | "Not" | "not" => some (unary "Not" .neg)
  | "And" | "and" => some (chained "And" .conj)
  | "Or" | "or" => some (chained "Or" .disj)
  | "Implies" | "implies" => some (binary "Implies" .imp)
  | "Iff" | "iff" => some (binary "Iff" .iff)
  | "EX" | "ex" => some (unary "EX" .ex)
  | "AX" | "ax" => some (unary "AX" .ax)
  | "EG" | "eg" => some (unary "EG" .eg)
  | "AG" | "ag" => some (unary "AG" .ag)
  | "EF" | "ef" => some (unary "EF" .ef)
  | "AF" | "af" => some (unary "AF" .af)
  | "EU" | "eu" => some (binary "EU" .eu)
  | "AU" | "au" => some (binary "AU" .au)
  | _ => none

/-- The formula of a function and its arguments. -/
def apply : Function → List Formula → Except TreeError Formula
  | unary _ make, [f] => .ok (make f)
  | unary name _, _ => .error (.wrongArity name)
  | binary _ make, [f, g] => .ok (make f g)
  | binary name _, _ => .error (.wrongArity name)
  | chained _ make, f :: fs => .ok (fs.foldl make f)
  | chained name _, [] => .error (.wrongArity name)

end Function

namespace Tree

mutual

/-- The formula that an expression stands for. Operands come before their operator,
from left to right; a call comes to its callee, then to its arguments, and then to
what the function makes of them. -/
def toFormula : Tree → Except TreeError Formula
  | truth value => .ok (.ofBool value)
  | text value => .ok (.atom value)
  | word name => .ok (.atom name)
  | path => .error .invalidProposition
  | negated operand => return .neg (← operand.toFormula)
  | binary op left right => do
    let f ← left.toFormula
    let g ← right.toFormula
    match op.connective? with
    | some make => return make f g
    | none => throw (.unknownOperator op)
  | parenthesized inner => inner.toFormula
  | call (word function) arguments => do
    let fs ← toFormulas arguments
    match Function.ofName? function with
    | some function => function.apply fs
    | none => throw (.unknownFunction function)
  | call callee _ => .error (.invalidFunction callee)
  | block => .error (.invalidExpression block)
  | range => .error (.invalidExpression range)
  | other => .error (.invalidExpression other)

/-- The formulas that expressions stand for, from left to right. -/
def toFormulas : List Tree → Except TreeError (List Formula)
  | [] => .ok []
  | tree :: rest => do
    let f ← tree.toFormula
    return f :: (← toFormulas rest)

end

end Tree

end BranchingTime.Expression
