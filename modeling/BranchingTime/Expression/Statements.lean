/-
Statements inside expressions: expressions with semicolons, bindings, and
declarations.
-/
import BranchingTime.Expression.Joined
import BranchingTime.Expression.Declarations

namespace BranchingTime.Expression

open Reader

/-- Whether a declaration comes next. -/
def isAtDeclaration : List Token → Bool
  | .word "crate" :: rest => !isAt "::" rest
  | .word "static" :: .word "async" :: rest =>
    match rest with
    | .word "move" :: _ => false
    | _ => !isAt "|" rest
  | .word "static" :: .word w :: _ => w == "mut" || isName w
  | .word "const" :: rest | .word "unsafe" :: rest => !isAtGroup .curly rest
  | .word "async" :: .word w :: _ => w == "unsafe" || w == "extern" || w == "fn"
  | .word "union" :: rest => isAtName rest
  | .word "auto" :: .word w :: _ => w == "trait"
  | .word "default" :: .word w :: _ => w == "unsafe" || w == "impl"
  | .word w :: _ =>
    ["pub", "extern", "use", "fn", "mod", "type", "struct", "enum", "trait", "impl",
      "macro"].contains w
  | _ => false

/-- A binding of a pattern, perhaps with a block for when it does not match. -/
def binding (deeper : Grammar) : Reader Unit := do
  word "let"
  alternatives deeper
  if ← symbol? ":" then discard (deeper.type true)
  if ← symbol? "=" then
    discard (expression deeper true)
    if ← word? "else" then block deeper
  symbol ";"

/-- What follows the path at the start of a statement that calls a rule with curly
brackets, or that names what it declares. -/
def afterRulePath? (tokens : List Token) : Option (List Token) :=
  match plainPath.after? tokens with
  | some (.mark '!' _ :: rest) =>
    match rest with
    | .group .curly _ :: after =>
      if isAt "." after || isAt "?" after then none else some rest
    | .word w :: after => if isName w then some after else none
    | _ => none
  | _ => none

/-- A statement; whether a further one may follow without a semicolon. -/
def statement (deeper : Grammar) : Reader Bool := do
  attributes
  let tokens ← get
  match afterRulePath? tokens with
  | some rest =>
    set rest
    anyGroup
    discard (symbol? ";")
    return true
  | none =>
    match tokens with
    | .word "let" :: _ => binding deeper; return true
    | _ =>
      if isAtDeclaration tokens then
        declaration deeper
        return true
      else
        let tree ← early deeper
        if ← symbol? ";" then return true
        else
          match tree with
          | .block => return true
          | _ => return false

/-- All tokens, as statements. -/
def statements (deeper : Grammar) : Reader Unit := repeatedly do
  if ← symbol? ";" then return true
  else if ← isDone then return false
  else
    let mayGoOn ← statement deeper
    if ← isDone then return false
    else if mayGoOn then return true
    else refuse

end BranchingTime.Expression
