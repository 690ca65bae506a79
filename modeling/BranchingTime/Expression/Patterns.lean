/-
Patterns inside expressions: names, literals, ranges, paths with fields, tuples,
slices and references, and alternatives of these.
-/
import BranchingTime.Expression.Types

namespace BranchingTime.Expression

open Reader

/-- Patterns with `|` between them. -/
def patterns (deeper : Grammar) : Reader Unit := repeatedly do
  deeper.pattern
  if (← sees "||") || (← sees "|=") then return false
  symbol? "|"

/-- Patterns with `|` between them, and perhaps before them. -/
def alternatives (deeper : Grammar) : Reader Unit := do
  discard (symbol? "|")
  patterns deeper

/-- A block that is evaluated before anything runs. -/
def constantBlock (deeper : Grammar) : Reader Unit := do
  word "const"
  attributedBlock deeper

/-- The symbol of a range; whether the range contains its end. -/
def rangeSymbol : Reader Bool := do
  if ← symbol? "..=" then return true
  else if ← symbol? "..." then return true
  else
    symbol ".."
    return false

/-- Whether a pattern ends here, after the symbol of a range. -/
def endsPattern (tokens : List Token) : Bool :=
  tokens.isEmpty || isAt "|" tokens || isAt "=" tokens || isAtColon tokens || isAt "," tokens ||
    isAt ";" tokens

/-- Whether a path comes next. -/
def isAtPath (tokens : List Token) : Bool :=
  isAt "::" tokens || isAt "<" tokens ||
    match tokens with
    | .word w :: _ => isStep w
    | _ => false

/-- An end of a range: a literal, a path or a block, perhaps with a sign. -/
def patternValue (deeper : Grammar) : Reader Unit := do
  discard (symbol? "-")
  if ← anyLiteral? then return
  else if isAtPath (← get) then discard (path deeper true)
  else constantBlock deeper

/-- The end of a range if it has one; whether it does. -/
def rangeEnd? (deeper : Grammar) : Reader Bool := do
  if endsPattern (← get) then return false
  patternValue deeper
  return true

/-- A field and its pattern, or a field that is named like what it is bound to. After a
number the colon may be missing. -/
def fieldPattern (deeper : Grammar) : Reader Unit := do
  let boxed ← word? "box"
  let byReference ← word? "ref"
  let mutable ← word? "mut"
  let named ← field
  if !named || (!boxed && !byReference && !mutable && (← sees ":")) then
    discard (symbol? ":")
    alternatives deeper

/-- The patterns of fields, in curly brackets; a last `..` stands for all others. -/
def fieldPatterns (deeper : Grammar) : Reader Unit :=
  inside .curly <| repeatedly do
    if ← isDone then return false
    attributes
    if ← symbol? ".." then return false
    fieldPattern deeper
    if ← isDone then return false
    symbol ","
    return true

/-- A pattern that starts with a path: a rule, fields, a range or the path alone. -/
def pathPattern (deeper : Grammar) : Reader Unit := do
  let path ← path deeper true
  if ← ruleCall? path then return
  match ← get with
  | .group .curly _ :: _ => fieldPatterns deeper
  | .group .round _ :: _ => discard (inside .round (separated (alternatives deeper)))
  | tokens =>
    if isAt ".." tokens then
      discard rangeSymbol
      discard (rangeEnd? deeper)

/-- A pattern that is a name, perhaps with a pattern for what it is bound to. -/
def namePattern (deeper : Grammar) : Reader Unit := do
  discard (word? "ref")
  discard (word? "mut")
  match ← get with
  | .word _ :: rest => set rest
  | _ => refuse
  if ← symbol? "@" then deeper.pattern

/-- Whether the symbol of a range comes next, and something that may be its end. -/
def isAtRangeWithEnd (tokens : List Token) : Bool :=
  match rangeSymbol.after? tokens with
  | some rest => !rest.isEmpty && !isAt "," rest
  | none => false

/-- Whether a pattern starts with a path, and not with a name that is bound. -/
def isAtPathPattern (tokens : List Token) : Bool :=
  isAt "::" tokens || isAt "<" tokens ||
    match tokens with
    | .word w :: rest =>
      w == "Self" || w == "super" || w == "crate" || (w == "self" && isAt "::" rest) ||
        (isName w && (isAt "::" rest || isAt "!" rest || isAtRangeWithEnd rest ||
          isAtGroup .curly rest || isAtGroup .round rest))
    | _ => false

/-- A pattern without alternatives. -/
def pattern (deeper : Grammar) : Reader Unit := do
  let tokens ← get
  if isAtPathPattern tokens then pathPattern deeper
  else
    match tokens with
    | .word "_" :: rest => set rest
    | .word "box" :: rest =>
      set rest
      deeper.pattern
    | .mark '-' _ :: _ | .literal _ :: _ | .word "true" :: _ | .word "false" :: _
    | .word "const" :: _ =>
      patternValue deeper
      if ← sees ".." then
        discard rangeSymbol
        discard (rangeEnd? deeper)
    | .word "ref" :: _ | .word "mut" :: _ | .word "self" :: _ => namePattern deeper
    | .mark '&' _ :: rest =>
      set rest
      discard (word? "mut")
      deeper.pattern
    | .group .round content :: rest =>
      discard (within content (separated (alternatives deeper)))
      set rest
    | .group .square content :: rest =>
      discard (within content (separated (alternatives deeper)))
      set rest
    | tokens =>
      if isAtName tokens then namePattern deeper
      else if isAt ".." tokens && !isAt "..." tokens then
        let closed ← rangeSymbol
        if !(← rangeEnd? deeper) && closed then refuse
      else refuse

end BranchingTime.Expression
