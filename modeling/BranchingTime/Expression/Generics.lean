/-
What declarations inside expressions share: who may use them, their parameters in
angle brackets, the conditions on these, and the heads of functions.
-/
import BranchingTime.Expression.Patterns

namespace BranchingTime.Expression

open Reader

/-- Take a word for who may use what is declared, if one comes next; whether it does.
Round brackets after `pub` belong to it only if they name a single place, or a path
after `in`. -/
def visibility? : Reader Bool := do
  match ← get with
  | .word "pub" :: rest =>
    match rest with
    | .group .round [.word "crate"] :: rest | .group .round [.word "self"] :: rest
    | .group .round [.word "super"] :: rest => set rest
    | .group .round (.word "in" :: content) :: rest =>
      within content plainPath
      set rest
    | _ => set rest
    return true
  | .word "crate" :: rest =>
    if isAt "::" rest then return false
    else
      set rest
      return true
  | _ => return false

/-- A name, or `_` in place of one. -/
def nameOrBlank : Reader Unit := do
  if !(← word? "_") then discard name

/-! ## Parameters in angle brackets -/

/-- A sum of bounds up to where one may end. -/
def boundsUntil (deeper : Grammar) (ends : List Token → Bool) : Reader Unit := repeatedly do
  if ends (← get) then return false
  discard (bound deeper)
  symbol? "+"

/-- A value that is known before anything runs: a literal, a name or a block. -/
def constantValue (deeper : Grammar) : Reader Unit := do
  if isAtGroup .curly (← get) then attributedBlock deeper
  else if !(← anyLiteral?) then discard name

/-- A parameter in angle brackets: a label, a type or a value. -/
def genericParameter (deeper : Grammar) : Reader Unit := do
  attributes
  match ← get with
  | .label :: rest =>
    set rest
    if ← symbol? ":" then labelBounds
  | .word "const" :: rest =>
    set rest
    discard name
    symbol ":"
    discard (deeper.type true)
    if ← symbol? "=" then constantValue deeper
  | .word "_" :: rest => set rest
  | _ =>
    discard name
    if ← symbol? ":" then
      boundsUntil deeper fun tokens => isAt "," tokens || isAt ">" tokens || isAt "=" tokens
    if ← symbol? "=" then discard (deeper.type true)

/-- Parameters in angle brackets, if they come next. -/
def generics (deeper : Grammar) : Reader Unit := do
  if ← sees "<" then discard (angled (genericParameter deeper))

/-! ## Conditions on parameters -/

/-- Whether a condition, or the sum in one, ends before these tokens. -/
def endsCondition (tokens : List Token) : Bool :=
  tokens.isEmpty || isAtGroup .curly tokens || isAt "," tokens || isAt ";" tokens ||
    isAtColon tokens || isAt "=" tokens

/-- A condition: labels that bound a label, or bounds of a type. -/
def condition (deeper : Grammar) : Reader Unit := do
  match ← get with
  | .label :: .mark ':' _ :: rest =>
    set rest
    repeatedly do
      if endsCondition (← get) || (← sees ":") then return false
      label
      symbol? "+"
  | _ =>
    discard boundLabels?
    discard (deeper.type true)
    symbol ":"
    boundsUntil deeper endsCondition

/-- Conditions with commas between them, if they come next; whether they do. -/
def conditions? (deeper : Grammar) : Reader Bool := do
  if ← word? "where" then
    repeatedly do
      if endsCondition (← get) then return false
      condition deeper
      symbol? ","
    return true
  else return false

/-! ## Heads of functions -/

/-- What follows a receiver, if the tokens start with one. -/
def afterReceiver? (tokens : List Token) : Option (List Token) :=
  let tokens := match tokens with
    | .mark '&' _ :: .label :: rest | .mark '&' _ :: rest => rest
    | _ => tokens
  match tokens with
  | .word "mut" :: .word "self" :: rest | .word "self" :: rest =>
    if isAt ":" rest then none else some rest
  | _ => none

/-- A parameter of a function; only the first one may be a receiver. A type with
arguments may stand alone, and dots may stand for further parameters. -/
def parameter (deeper : Grammar) (isFirst : Bool) : Reader Unit := do
  attributes
  if ← symbol? "..." then return
  let tokens ← get
  match afterReceiver? tokens with
  | some rest => if isFirst then set rest else refuse
  | none =>
    if isAtName tokens && isAt "<" tokens.tail then discard (deeper.type true)
    else
      patterns deeper
      symbol ":"
      if !(← symbol? "...") then discard (deeper.type true)

/-- The parameters of a function. -/
def parameters (deeper : Grammar) : Reader Unit := do
  if ← isDone then return
  parameter deeper true
  if ← isDone then return
  symbol ","
  discard (separated (parameter deeper false))

/-- The words before the name of a function, but for the last one. -/
def functionWords : Reader Unit := do
  discard (word? "const")
  discard (word? "async")
  discard (word? "unsafe")
  discard linkage?

/-- Whether a function comes next. -/
def seesFunction : Reader Bool := do
  let tokens ← get
  functionWords
  let found ← word? "fn"
  set tokens
  return found

/-- A function, with a body or without one. -/
def functionDeclaration (deeper : Grammar) : Reader Unit := do
  functionWords
  word "fn"
  discard name
  generics deeper
  inside .round (parameters deeper)
  discard (result? deeper true)
  discard (conditions? deeper)
  if !(← symbol? ";") then attributedBlock deeper

end BranchingTime.Expression
