/-
Paths and types inside expressions. A path has steps with `::` between them; a step
may have arguments in angle brackets, or in round ones if it ends a type. In an
expression, where `<` compares, arguments follow `::`.
-/
import BranchingTime.Expression.Grammar

namespace BranchingTime.Expression

open Reader

/-! ## Bounds -/

/-- Labels with `+` between them, up to a comma or the end of angle brackets. -/
def labelBounds : Reader Unit := repeatedly do
  if (← sees ",") || (← sees ">") then return false
  label
  symbol? "+"

/-- Labels that are bound in what follows them. -/
def boundLabels : Reader Unit := do
  word "for"
  symbol "<"
  repeatedly do
    if ← sees ">" then return false
    attributes
    label
    if ← symbol? ":" then labelBounds
    if ← sees ">" then return false
    symbol ","
    return true
  symbol ">"

/-- Take bound labels if they come next; whether they do. -/
def boundLabels? : Reader Bool := do
  match ← get with
  | .word "for" :: _ => boundLabels; return true
  | _ => return false

/-! ## Paths -/

/-- Whether arguments in angle brackets come next, after a step of a path. -/
def isAtAngled (inExpression : Bool) (tokens : List Token) : Bool :=
  (!inExpression && isAt "<" tokens && !isAt "<=" tokens) ||
    match tokens with
    | .mark ':' true :: .mark ':' _ :: .mark '<' _ :: _ => true
    | _ => false

/-- Items in angle brackets, with commas between them; whether there are none. -/
def angled (item : Reader Unit) : Reader Bool := do
  discard (symbol? "::")
  symbol "<"
  let isEmpty ← sees ">"
  repeatedly do
    if ← sees ">" then return false
    item
    if ← sees ">" then return false
    symbol ","
    return true
  symbol ">"
  return isEmpty

/-- What a function gives, if that is said. -/
def result? (deeper : Grammar) (sums : Bool) : Reader (Option TypeForm) := do
  if ← symbol? "->" then return some (← deeper.type sums) else return none

/-- Whether arguments in round brackets come next, after a step of a path. -/
def isAtParenthesized : List Token → Bool
  | .group .round _ :: _ | .mark ':' true :: .mark ':' _ :: .group .round _ :: _ => true
  | _ => false

/-- Arguments in round brackets and a result; whether further steps may follow. -/
def parenthesizedArguments (deeper : Grammar) : Reader Bool := do
  discard (symbol? "::")
  discard (inside .round (separated (deeper.type true)))
  match ← result? deeper false with
  | none | some .parenthesized => return true
  | some _ => return false

/-- A sum of bounds up to a comma or the end of angle brackets. -/
def argumentBounds (deeper : Grammar) : Reader Unit := repeatedly do
  if (← sees ",") || (← sees ">") then return false
  discard deeper.bound
  symbol? "+"

/-- Whether a type is a single step with arguments in angle brackets. -/
def isAngledStep : TypeForm → Bool
  | .path ⟨false, false, [⟨_, .angled _⟩]⟩ => true
  | _ => false

/-- Whether a colon comes next, and no second one. -/
def isAtColon (tokens : List Token) : Bool := isAt ":" tokens && !isAt "::" tokens

/-- An argument in angle brackets: a label, a value or a bound for a name, a literal, a
block or a type. -/
def angledArgument (deeper : Grammar) : Reader Unit := do
  match ← get with
  | .label :: rest =>
    if isAt "+" rest then discard (deeper.type true) else set rest
  | .group .curly _ :: _ => attributedBlock deeper
  | tokens =>
    if isAtName tokens && isAt "=" tokens.tail then
      set tokens.tail.tail
      if isAtGroup .curly (← get) then attributedBlock deeper
      else if !(← anyLiteral?) then discard (deeper.type true)
    else if isAtName tokens && isAtColon tokens.tail then
      set tokens.tail.tail
      argumentBounds deeper
    else if !(← anyLiteral?) then
      if isAngledStep (← deeper.type true) then
        if ← symbol? "=" then discard (deeper.type true)
        else if ← symbol? ":" then argumentBounds deeper

/-- A step of a path. -/
def segment (deeper : Grammar) (inExpression : Bool) : Reader Segment := do
  match ← get with
  | .word w :: rest =>
    if ["super", "self", "crate"].contains w then
      set rest
      return ⟨w, .none⟩
    else if isName w || w == "Self" then
      set rest
      if isAtAngled inExpression rest then
        return ⟨w, .angled (← angled (angledArgument deeper))⟩
      else return ⟨w, .none⟩
    else refuse
  | _ => refuse

/-- The further steps of a path, less than `steps` of them. -/
def segmentSteps (deeper : Grammar) (inExpression : Bool) : (steps : Nat) → Reader (List Segment)
  | 0 => refuse
  | steps + 1 => do
    match ← get with
    | .mark ':' true :: .mark ':' _ :: .group .round _ :: _ => return []
    | .mark ':' true :: .mark ':' _ :: rest =>
      set rest
      let first ← segment deeper inExpression
      return first :: (← segmentSteps deeper inExpression steps)
    | _ => return []

/-- The further steps of a path. -/
def furtherSegments (deeper : Grammar) (inExpression : Bool) : Reader (List Segment) := do
  segmentSteps deeper inExpression ((← get).length + 1)

/-- A path that starts with a step or at the root. -/
def simplePath (deeper : Grammar) (inExpression : Bool) : Reader Path := do
  let rooted ← symbol? "::"
  let first ← segment deeper inExpression
  return ⟨false, rooted, first :: (← furtherSegments deeper inExpression)⟩

/-- A path, perhaps from a type in angle brackets. -/
def path (deeper : Grammar) (inExpression : Bool) : Reader Path := do
  if ← symbol? "<" then
    discard (deeper.type true)
    let outer ← if ← word? "as" then some <$> simplePath deeper false else pure none
    symbol ">"
    symbol "::"
    let first ← segment deeper inExpression
    let segments := first :: (← furtherSegments deeper inExpression)
    match outer with
    | none => return ⟨true, true, segments⟩
    | some outer => return ⟨true, outer.rooted, outer.segments ++ segments⟩
  else simplePath deeper inExpression

/-- A path that ends a type: arguments in round brackets may follow its last step, and
further steps may follow these, less than `steps` times. -/
def typePathSteps (deeper : Grammar) : (steps : Nat) → Path → Reader Path
  | 0, _ => refuse
  | steps + 1, path => do
    if path.endsBare && isAtParenthesized (← get) then
      let goesOn ← parenthesizedArguments deeper
      let last := path.segments.getLast?.map fun s => { s with arguments := .parenthesized }
      let segments := path.segments.dropLast ++ last.toList
      let further ← if goesOn then furtherSegments deeper false else pure []
      typePathSteps deeper steps { path with segments := segments ++ further }
    else return path

/-- A path that ends a type. -/
def typePath (deeper : Grammar) : Reader Path := do
  typePathSteps deeper ((← get).length + 1) (← path deeper false)

/-- A call of a named rule after a path, with anything in brackets, if one comes next. -/
def ruleCall? (path : Path) : Reader Bool := do
  if !path.qualified && path.isPlain && (← sees "!") && !(← sees "!=") then
    symbol "!"
    anyGroup
    return true
  else return false

/-! ## Types -/

/-- A bound without brackets around it that is no label. -/
def namedBound (deeper : Grammar) : Reader Unit := do
  match ← get with
  | .mark '~' _ :: .word "const" :: rest => set rest
  | _ => pure ()
  discard (symbol? "?")
  discard boundLabels?
  let path ← simplePath deeper false
  if path.endsBare && isAtParenthesized (← get) then discard (parenthesizedArguments deeper)

/-- A bound; whether it is no label. -/
def bound (deeper : Grammar) : Reader Bool := do
  if ← label? then return false
  else if isAtGroup .round (← get) then
    inside .round (namedBound deeper)
    return true
  else
    namedBound deeper
    return true

/-- Whether a bound may come next. -/
def isAtBound : List Token → Bool
  | .word _ :: _ | .label :: _ | .group .round _ :: _ | .mark '?' _ :: _ => true
  | tokens => isAt "::" tokens

/-- Further bounds, each after `+`, and perhaps a last `+`; whether there is neither. -/
def furtherBounds (deeper : Grammar) : Reader Bool := do
  let single := !(← sees "+")
  repeatedly do
    if ← symbol? "+" then
      if isAtBound (← get) then
        discard (bound deeper)
        return true
    return false
  return single

/-- Further bounds, one after every `+`; whether there is none. -/
def addedBounds (deeper : Grammar) : Reader Bool := do
  let single := !(← sees "+")
  repeatedly do
    if ← symbol? "+" then
      discard (bound deeper)
      return true
    return false
  return single

/-- A sum of bounds that are not all labels, at most `steps` of them; `found` says
whether one that is no label was before them. -/
def boundSteps (deeper : Grammar) (sums found : Bool) : (steps : Nat) → Reader Unit
  | 0 => refuse
  | steps + 1 => do
    let found := (← bound deeper) || found
    let goesOn ← if sums then symbol? "+" else pure false
    if goesOn && isAtBound (← get) then boundSteps deeper sums found steps
    else if !found then refuse

/-- A sum of bounds that are not all labels. -/
def boundSum (deeper : Grammar) (sums : Bool) : Reader Unit := do
  boundSteps deeper sums false ((← get).length + 1)

/-- Take `extern`, and the text that may follow it, if it comes next. -/
def linkage? : Reader Bool := do
  if ← word? "extern" then
    match ← get with
    | .literal (.foreign written) :: _ => throw (.unrecognized written)
    | .literal (.text _) :: rest => set rest
    | _ => pure ()
    return true
  else return false

/-- A parameter of a type of functions, perhaps with a name; whether it is a receiver
that can change, which only a first one may be. -/
def functionParameter (deeper : Grammar) (isFirst : Bool) : Reader Bool := do
  match ← get with
  | .word "mut" :: .word "self" :: rest =>
    if isFirst && isAtColon rest then
      set rest.tail
      discard (deeper.type true)
      return true
  | .word w :: rest => if (isName w || w == "_" || w == "self") && isAtColon rest then set rest.tail
  | _ => pure ()
  match ← get with
  | .word "mut" :: .word "self" :: rest => if isFirst then set rest; return true else refuse
  | _ =>
    if !(← symbol? "...") then discard (deeper.type true)
    return false

/-- The parameters of a type of functions, less than `steps` of them. There is room for
one parameter after a receiver that can change. -/
def functionParameterSteps (deeper : Grammar) :
    (steps : Nat) → (isFirst hasReceiver : Bool) → Reader Unit
  | 0, _, _ => refuse
  | steps + 1, isFirst, hasReceiver => do
    if ← isDone then return
    attributes
    let isFull := hasReceiver && !isFirst
    if !isFull && (← sees "...") then symbol "..."
    else
      let isReceiver ← functionParameter deeper isFirst
      if isFull then throw .crowded
      if ← isDone then return
      symbol ","
      functionParameterSteps deeper steps (isFirst && isReceiver) (hasReceiver || isReceiver)

/-- The type of functions, from after the labels that are bound in it. -/
def functionType (deeper : Grammar) : Reader Unit := do
  discard (word? "unsafe")
  discard linkage?
  word "fn"
  inside .round do functionParameterSteps deeper ((← get).length + 1) true false
  discard (result? deeper false)

/-- What round brackets that hold a type are, from what is in them and after them. -/
def parenthesizedType (deeper : Grammar) (sums : Bool) (content : List Token) :
    Reader TypeForm := do
  match content with
  | [] => return .other
  | .label :: _ =>
    within content (boundSum deeper true)
    return .parenthesized
  | .mark '?' _ :: _ =>
    within content (discard (bound deeper))
    return .bounds (← addedBounds deeper)
  | _ =>
    let first ← within content do
      let first ← deeper.type true
      if ← symbol? "," then
        discard (separated (deeper.type true))
        return none
      else return some first
    match first with
    | none => return .other
    | some first =>
      let isBound := match first with
        | .path path => !path.qualified
        | .bounds single => single
        | _ => false
      if sums && isBound && (← sees "+") then return .bounds (← addedBounds deeper)
      else return .parenthesized

/-- A type that starts with a word, or with a symbol of paths. -/
def namedType (deeper : Grammar) (sums hasLabels : Bool) : Reader TypeForm := do
  if ← word? "dyn" then
    discard (symbol? "*")
    boundSum deeper sums
    return .other
  let path ← typePath deeper
  if path.qualified then return .path path
  else if ← ruleCall? path then return .other
  else if sums && (← sees "+") then return .bounds (← furtherBounds deeper)
  else if hasLabels then return .bounds true
  else return .path path

/-- Whether a type may go on in this way after labels that are bound in it. -/
def isAtLabelled : List Token → Bool
  | .word w :: _ => (isStep w && w != "dyn") || w == "fn" || w == "unsafe" || w == "extern"
  | _ => false

/-- A type; `sums` says whether it may be a sum of bounds. -/
def typeForm (deeper : Grammar) (sums : Bool) : Reader TypeForm := do
  let hasLabels ← boundLabels?
  if hasLabels && !isAtLabelled (← get) then refuse
  match ← get with
  | .group .round content :: rest =>
    set rest
    parenthesizedType deeper sums content
  | .word "fn" :: _ | .word "unsafe" :: _ | .word "extern" :: _ =>
    functionType deeper
    return .other
  | .word "impl" :: rest =>
    set rest
    boundSum deeper sums
    return .other
  | .word "_" :: rest =>
    set rest
    return .other
  | .group .square content :: rest =>
    within content do
      discard (deeper.type true)
      if ← symbol? ";" then discard (deeper.expression true)
    set rest
    return .other
  | .mark '*' _ :: rest =>
    set rest
    if !(← word? "const") then word "mut"
    discard (deeper.type false)
    return .other
  | .mark '&' _ :: rest =>
    set rest
    discard label?
    discard (word? "mut")
    discard (deeper.type false)
    return .other
  | .mark '!' _ :: rest =>
    set rest
    return .other
  | .label :: _ =>
    boundSum deeper true
    return .bounds false
  | .word w :: _ => if isStep w then namedType deeper sums hasLabels else refuse
  | tokens =>
    if isAt "::" tokens || isAt "<" tokens then namedType deeper sums hasLabels else refuse

end BranchingTime.Expression
