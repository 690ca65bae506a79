/-
Operands of expressions: literals, paths, groups, blocks, branches, loops and
anonymous functions, with the operators before them and the calls, fields and indices
after them. Most of these occur in no formula, but an expression has to be one before
it is refused for what is in it.
-/
import BranchingTime.Expression.Patterns

namespace BranchingTime.Expression

open Reader

/-! ## Calls, fields and indices -/

/-- Whether what stands between two dots is the number of a field. -/
def isFieldNumber (part : List Char) : Bool :=
  match Literal.number? part with
  | some (.integer value false, []) => value < fieldLimit
  | _ => false

/-- Numbers of fields that are written like a number with a fraction; whether a further
field follows, after a last dot. -/
def fieldNumbers (written : String) : Reader Bool := do
  let parts := Text.splitWhere (· == '.') written.toList
  let followed := parts.getLast?.any (·.isEmpty)
  let parts := if followed then parts.dropLast else parts
  if parts.all isFieldNumber then return followed else refuse

/-- An argument in angle brackets before the arguments of a call. -/
def callTypeArgument (deeper : Grammar) : Reader Unit := do
  if isAtGroup .curly (← get) then attributedBlock deeper
  else if !(← anyLiteral?) then discard (deeper.type true)

/-- A field after a dot, or a call of one by its name. -/
def fieldOrCall (deeper : Grammar) : Reader Unit := do
  if ← word? "await" then return
  let named ← field
  let hasTypes := named && (← sees "::")
  if hasTypes then
    symbol "::"
    symbol "<"
    repeatedly do
      if ← sees ">" then return false
      callTypeArgument deeper
      if ← sees ">" then return false
      symbol ","
      return true
    symbol ">"
  if hasTypes || (named && isAtGroup .round (← get)) then
    discard (inside .round (separated (deeper.expression true)))

/-- What a dot and the tokens after it select. -/
def selection (deeper : Grammar) : Reader Unit := do
  symbol "."
  match ← get with
  | .literal (.decimal written) :: rest =>
    set rest
    if ← fieldNumbers written then fieldOrCall deeper
  | _ => fieldOrCall deeper

/-- An operand with the calls, fields and indices after it, less than `steps` of them.
No field of a range can be selected. -/
def postfixedSteps (deeper : Grammar) (steps : Nat) (operand : Tree) : Reader Tree := do
  match steps with
  | 0 => refuse
  | steps + 1 =>
    match ← get with
    | .group .round content :: rest =>
      let arguments ← within content (separated (deeper.expression true))
      set rest
      postfixedSteps deeper steps (.call operand arguments)
    | .group .square content :: rest =>
      discard (within content (deeper.expression true))
      set rest
      postfixedSteps deeper steps .other
    | .mark '?' _ :: rest =>
      set rest
      postfixedSteps deeper steps .other
    | tokens =>
      let isRange := match operand with
        | .range => true
        | _ => false
      if isAt "." tokens && !isAt ".." tokens && !isRange then
        selection deeper
        postfixedSteps deeper steps .other
      else return operand

/-- An operand with the calls, fields and indices after it. -/
def postfixed (deeper : Grammar) (operand : Tree) : Reader Tree := do
  postfixedSteps deeper ((← get).length + 1) operand

/-! ## Branches and loops -/

/-- A branch, with further branches after `else`, less than `steps` of them. -/
def branchSteps (deeper : Grammar) : (steps : Nat) → Reader Unit
  | 0 => refuse
  | steps + 1 => do
    word "if"
    discard (deeper.expression false)
    block deeper
    if ← word? "else" then
      match ← get with
      | .word "if" :: _ => branchSteps deeper steps
      | _ => block deeper

/-- A branch on a condition. -/
def branch (deeper : Grammar) : Reader Unit := do branchSteps deeper ((← get).length + 1)

/-- A loop, from after its label. -/
def loop (deeper : Grammar) : Reader Unit := do
  if ← word? "while" then discard (deeper.expression false)
  else if ← word? "for" then
    alternatives deeper
    word "in"
    discard (deeper.expression false)
  else word "loop"
  attributedBlock deeper

/-- What a label stands before: a loop or a block. -/
def labelled (deeper : Grammar) : Reader Unit := do
  label
  symbol ":"
  if isAtGroup .curly (← get) then attributedBlock deeper else loop deeper

/-- Whether an expression may end before these tokens. -/
def endsHere (tokens : List Token) : Bool := tokens.isEmpty || isAt "," tokens || isAt ";" tokens

/-- An expression, unless what it would be a part of ends here. -/
def valueUnless (ends : Bool) (value : Reader Tree) : Reader Unit := do
  if !ends then discard value

/-- An anonymous function, from after the labels that are bound in it. -/
def function (deeper : Grammar) (braces : Bool) : Reader Unit := do
  discard (word? "static")
  discard (word? "async")
  discard (word? "move")
  symbol "|"
  repeatedly do
    if ← sees "|" then return false
    attributes
    deeper.pattern
    if ← symbol? ":" then discard (deeper.type true)
    if ← sees "|" then return false
    symbol ","
    return true
  symbol "|"
  if ← symbol? "->" then
    discard (deeper.type true)
    block deeper
  else discard (deeper.expression braces)

/-! ## Groups and paths -/

/-- What round brackets hold: nothing, one expression, or several with commas. -/
def parenthesized (deeper : Grammar) : Reader Tree := do
  if ← isDone then return .other
  let first ← deeper.expression true
  if ← isDone then return .parenthesized first
  symbol ","
  discard (separated (deeper.expression true))
  return .other

/-- What square brackets hold: expressions with commas, or one and how often it is
repeated. -/
def listed (deeper : Grammar) : Reader Unit := do
  if ← isDone then return
  discard (deeper.expression true)
  if ← isDone then return
  if ← symbol? ";" then discard (deeper.expression true)
  else
    symbol ","
    discard (separated (deeper.expression true))

/-- The values of fields, in curly brackets; a last `..` stands before where all others
come from. -/
def fieldValues (deeper : Grammar) : Reader Unit :=
  inside .curly <| repeatedly do
    if ← isDone then return false
    if ← symbol? ".." then
      if !(← isDone) then discard (deeper.expression true)
      return false
    attributes
    let named ← field
    if !named || (← sees ":") then
      symbol ":"
      discard (deeper.expression true)
    if ← isDone then return false
    symbol ","
    return true

/-- A path, a call of a rule, or the fields of a value. -/
def pathOperand (deeper : Grammar) (braces : Bool) : Reader Tree := do
  let path ← path deeper true
  if ← ruleCall? path then return .other
  else if braces && isAtGroup .curly (← get) then
    fieldValues deeper
    return .other
  else return path.tree

/-- The end of a range, if it has one. -/
def rangeEnd (braces : Bool) (value : Reader Tree) : Reader Unit := do
  let tokens ← get
  valueUnless (endsHere tokens || (isAt "." tokens && !isAt ".." tokens) ||
    (!braces && isAtGroup .curly tokens)) value

/-- A choice between patterns. -/
def choice (deeper : Grammar) : Reader Unit := do
  word "match"
  discard (deeper.expression false)
  inside .curly do
    innerAttributes
    repeatedly do
      if ← isDone then return false
      attributes
      alternatives deeper
      if ← word? "if" then discard (deeper.expression true)
      symbol "=>"
      match ← deeper.early with
      | .block => discard (symbol? ",")
      | _ => if !(← isDone) then symbol ","
      return true

/-! ## Operands -/

/-- An operand without operators. -/
def atom (deeper : Grammar) (braces : Bool) : Reader Tree := do
  match ← get with
  | .literal _ :: _ =>
    match ← literal? with
    | some (.text value) => return .text value
    | _ => return .other
  | .word "true" :: rest => set rest; return .truth true
  | .word "false" :: rest => set rest; return .truth false
  | .word "async" :: .group .curly _ :: _ | .word "async" :: .word "move" :: .group .curly _ :: _ =>
    word "async"
    discard (word? "move")
    block deeper
    return .block
  | .word "try" :: .group .curly _ :: _ => word "try"; block deeper; return .block
  | .word "async" :: .mark '|' _ :: _ | .word "async" :: .word "move" :: _
  | .word "static" :: _ | .word "move" :: _ | .mark '|' _ :: _ =>
    function deeper braces
    return .other
  | .group .round content :: rest =>
    let tree ← within content (parenthesized deeper)
    set rest
    return tree
  | .group .square content :: rest =>
    within content (listed deeper)
    set rest
    return .other
  | .group .curly _ :: _ => attributedBlock deeper; return .block
  | .word "break" :: rest =>
    set rest
    discard label?
    let tokens ← get
    valueUnless (endsHere tokens || (!braces && isAtGroup .curly tokens)) (deeper.expression braces)
    return .other
  | .word "continue" :: rest => set rest; discard label?; return .other
  | .word "return" :: rest =>
    set rest
    valueUnless (endsHere rest) (deeper.expression braces)
    return .other
  | .word "yield" :: rest =>
    set rest
    valueUnless (endsHere rest) (deeper.expression true)
    return .other
  | .word "let" :: rest =>
    set rest
    alternatives deeper
    symbol "="
    let value ← deeper.operand false
    discard (deeper.joined false value Operator.lt.strength)
    return .other
  | .word "if" :: _ => branch deeper; return .block
  | .word "for" :: .mark '<' _ :: .label :: _ | .word "for" :: .mark '<' _ :: .mark '>' _ :: _ =>
    boundLabels
    function deeper braces
    return .other
  | .word "while" :: _ | .word "for" :: _ | .word "loop" :: _ => loop deeper; return .block
  | .word "match" :: _ => choice deeper; return .block
  | .word "unsafe" :: rest => set rest; attributedBlock deeper; return .block
  | .word "const" :: _ => constantBlock deeper; return .other
  | .word "_" :: rest => set rest; return .other
  | .label :: _ => labelled deeper; return .block
  | tokens =>
    if isAtPath tokens then pathOperand deeper braces
    else if isAt ".." tokens then
      discard rangeSymbol
      rangeEnd braces (deeper.expression braces)
      return .range
    else refuse

/-- An operand with the operators before it and the calls, fields and indices after it. -/
def operand (deeper : Grammar) (braces : Bool) : Reader Tree := do
  attributes
  match ← get with
  | .mark '!' _ :: rest | .mark '-' _ :: rest =>
    set rest
    return .negated (← deeper.operand braces)
  | .mark '*' _ :: rest | .word "box" :: rest =>
    set rest
    discard (deeper.operand braces)
    return .other
  | .mark '&' _ :: .word "raw" :: .word "const" :: rest
  | .mark '&' _ :: .word "raw" :: .word "mut" :: rest
  | .mark '&' _ :: .word "mut" :: rest | .mark '&' _ :: rest =>
    set rest
    discard (deeper.operand braces)
    return .other
  | _ => postfixed deeper (← atom deeper braces)

end BranchingTime.Expression
