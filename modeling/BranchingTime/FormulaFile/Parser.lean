/-
Formulas from tokens. From the weakest to the strongest, the connectives are
`<->`, `->`, `||`, `&&` and the prefixed ones; `<->` and `->` nest to the right,
`||` and `&&` to the left. `E` and `A` are quantifiers in front of a square
bracket and names elsewhere.

The parser reads one token after the other. Its state is the stack of what is
still open: prefixed operators and left operands that wait for the next operand,
and brackets that wait to be closed. A token is refused as soon as it does not
fit, so an error is always at the first token that no formula has there.
-/
import BranchingTime.Formula.Basic
import BranchingTime.FormulaFile.Token

namespace BranchingTime.FormulaFile

/-! ## Operators -/

/-- The operators before one operand. -/
inductive Unary where
  | neg | ex | ax | eg | ag | ef | af
deriving DecidableEq

/-- The operators between two operands. -/
inductive Binary where
  | iff | imp | disj | conj
deriving DecidableEq

/-- The quantifiers of an until. -/
inductive Quantifier where
  | some | every
deriving DecidableEq

namespace Unary

def apply : Unary → Formula → Formula
  | neg => .neg
  | ex => .ex
  | ax => .ax
  | eg => .eg
  | ag => .ag
  | ef => .ef
  | af => .af

/-- The operator that is written as this word. -/
def ofWord? : String → Option Unary
  | "EX" => .some ex
  | "AX" => .some ax
  | "EG" => .some eg
  | "AG" => .some ag
  | "EF" => .some ef
  | "AF" => .some af
  | _ => none

end Unary

namespace Binary

def apply : Binary → Formula → Formula → Formula
  | iff => .iff
  | imp => .imp
  | disj => .disj
  | conj => .conj

/-- How strongly an operator binds. -/
def strength : Binary → Nat
  | iff => 0
  | imp => 1
  | disj => 2
  | conj => 3

def nestsRight : Binary → Bool
  | iff | imp => true
  | disj | conj => false

def ofToken? : Token → Option Binary
  | .doubleArrow => some iff
  | .arrow => some imp
  | .bars => some disj
  | .ampersands => some conj
  | _ => none

/-- Whether in `f left g right h` the operands of `left` are `f` and `g`. -/
def takesBefore (left right : Binary) : Bool :=
  right.strength < left.strength || (left == right && !left.nestsRight)

end Binary

namespace Quantifier

def apply : Quantifier → Formula → Formula → Formula
  | some => .eu
  | every => .au

def word : Quantifier → String
  | some => "E"
  | every => "A"

def ofWord? : String → Option Quantifier
  | "E" => .some some
  | "A" => .some every
  | _ => none

end Quantifier

/-! ## Errors -/

/-- What may stand where something else was found. -/
inductive Expected where
  | formula
  | closeRound
  | untilWord
  | closeSquare
  | nothing
deriving DecidableEq

namespace Expected

def message : Expected → String
  | formula => "a formula"
  | closeRound => "`)`"
  | untilWord => "`U`"
  | closeSquare => "`]`"
  | nothing => "end of the formula"

end Expected

inductive ParseError where
  | unexpectedToken (found : Lexeme) (expected : Expected)
  | unexpectedEnd (expected : Expected)
deriving DecidableEq

/-! ## States -/

/-- Something that is open, and waits for an operand or for its end. -/
inductive Frame where
  /-- An operator, before its operand. -/
  | unary (op : Unary)
  /-- A left operand and its operator, before the right operand. -/
  | left (f : Formula) (op : Binary)
  /-- A round bracket. -/
  | round
  /-- The square bracket of an until, before its `U`. -/
  | reaching (q : Quantifier)
  /-- The square bracket of an until, after its `U`. -/
  | reached (q : Quantifier) (f : Formula)
deriving DecidableEq

abbrev Stack := List Frame

inductive State where
  /-- An operand has to come next. -/
  | operand (stack : Stack)
  /-- The name of a quantifier: an operand, unless a square bracket follows. -/
  | quantifier (q : Quantifier) (stack : Stack)
  /-- After an operand. -/
  | operator (stack : Stack) (f : Formula)
deriving DecidableEq

namespace State

/-- An operand is taken by the prefixed operators right before it. -/
def prefixed : Stack → Formula → Stack × Formula
  | .unary op :: stack, f => prefixed stack (op.apply f)
  | stack, f => (stack, f)

/-- The state after an operand. -/
def afterOperand (stack : Stack) (f : Formula) : State :=
  let (stack, f) := prefixed stack f
  .operator stack f

/-- Before the operator `op`, the operators to its left that bind more strongly
take their operands. -/
def beforeOperator (op : Binary) : Stack → Formula → State
  | .left g left :: stack, f =>
    if left.takesBefore op then beforeOperator op stack (left.apply g f)
    else .operand (.left f op :: .left g left :: stack)
  | stack, f => .operand (.left f op :: stack)

/-- The innermost open bracket, and the formula in it so far: before its end, all
operators in it take their operands. -/
def inBracket : Stack → Formula → Stack × Formula
  | .left g left :: stack, f => inBracket stack (left.apply g f)
  | stack, f => (stack, f)

/-- What closes the innermost bracket. -/
def closer : Stack → Expected
  | .round :: _ => .closeRound
  | .reaching _ :: _ => .untilWord
  | .reached _ _ :: _ => .closeSquare
  | .unary _ :: _ | .left _ _ :: _ | [] => .nothing

/-- The state after a token that is no operator. -/
def close (found : Lexeme) (stack : Stack) (f : Formula) : Except ParseError State :=
  match stack, found.token with
  | .round :: stack, .closeRound => .ok (afterOperand stack f)
  | .reaching q :: stack, .word "U" => .ok (.operand (.reached q f :: stack))
  | .reached q g :: stack, .closeSquare => .ok (afterOperand stack (q.apply g f))
  | stack, _ => .error (.unexpectedToken found (closer stack))

/-- The state after a token, where an operand has to come. -/
def stepOperand (found : Lexeme) (stack : Stack) : Except ParseError State :=
  match found.token with
  | .bang => .ok (.operand (.unary .neg :: stack))
  | .openRound => .ok (.operand (.round :: stack))
  | .quoted name => .ok (afterOperand stack (.atom name))
  | .word "true" => .ok (afterOperand stack .tt)
  | .word "false" => .ok (afterOperand stack .ff)
  | .word "U" => .error (.unexpectedToken found .formula)
  | .word name =>
    match Unary.ofWord? name, Quantifier.ofWord? name with
    | some op, _ => .ok (.operand (.unary op :: stack))
    | none, some q => .ok (.quantifier q stack)
    | none, none => .ok (afterOperand stack (.atom name))
  | _ => .error (.unexpectedToken found .formula)

/-- The state after a token that follows an operand. -/
def stepOperator (found : Lexeme) (stack : Stack) (f : Formula) : Except ParseError State :=
  match Binary.ofToken? found.token with
  | some op => .ok (beforeOperator op stack f)
  | none =>
    let (stack, f) := inBracket stack f
    close found stack f

/-- The state after one more token. -/
def step (state : State) (found : Lexeme) : Except ParseError State :=
  match state with
  | .operand stack => stepOperand found stack
  | .operator stack f => stepOperator found stack f
  | .quantifier q stack =>
    if found.token = .openSquare then .ok (.operand (.reaching q :: stack))
    else
      let (stack, f) := prefixed stack (.atom q.word)
      stepOperator found stack f

/-- The formula, if all brackets are closed. -/
def finishOperator (stack : Stack) (f : Formula) : Except ParseError Formula :=
  match inBracket stack f with
  | ([], f) => .ok f
  | (stack, _) => .error (.unexpectedEnd (closer stack))

/-- The formula of a state after the last token. -/
def finish : State → Except ParseError Formula
  | .operand _ => .error (.unexpectedEnd .formula)
  | .operator stack f => finishOperator stack f
  | .quantifier q stack =>
    let (stack, f) := prefixed stack (.atom q.word)
    finishOperator stack f

end State

/-- The formula that the tokens spell. -/
def parseTokens (tokens : List Lexeme) : Except ParseError Formula := do
  (← tokens.foldlM State.step (.operand [])).finish

end BranchingTime.FormulaFile
