/-
Declarations inside expressions: functions, types, constants, modules and what is
brought in from elsewhere. They occur in no formula, but a block with a declaration in
it is an expression only if the declaration is one.
-/
import BranchingTime.Expression.Generics

namespace BranchingTime.Expression

open Reader

/-- Declarations in curly brackets, with attributes of what they are in before them. -/
def members (member : Reader Unit) : Reader Unit :=
  inside .curly do
    innerAttributes
    repeatedly do
      if ← isDone then return false
      member
      return true

/-- A call of a named rule that makes declarations. It ends with a semicolon if its
brackets are not curly; `mayName` says whether it may name what it declares. -/
def ruleDeclaration (mayName : Bool) : Reader Unit := do
  match ← get with
  | .word "Self" :: _ => refuse
  | _ => plainPath
  symbol "!"
  if mayName && isAtName (← get) then discard name
  let isCurly := isAtGroup .curly (← get)
  anyGroup
  if !isCurly then symbol ";"

/-! ## Constants and types -/

/-- A value after `=`, if it comes next, and a semicolon. -/
def valueEnd (deeper : Grammar) : Reader Unit := do
  if ← symbol? "=" then discard (deeper.expression true)
  symbol ";"

/-- A constant, with a type and perhaps a value. -/
def constantDeclaration (deeper : Grammar) : Reader Unit := do
  word "const"
  nameOrBlank
  symbol ":"
  discard (deeper.type true)
  valueEnd deeper

/-- A variable that exists once; `mayLackType` says whether a value alone is enough. -/
def staticDeclaration (deeper : Grammar) (mayLackType : Bool) : Reader Unit := do
  word "static"
  discard (word? "mut")
  discard name
  if !(mayLackType && (← sees "=")) then
    symbol ":"
    discard (deeper.type true)
  valueEnd deeper

/-- Where conditions stand in the declaration of a type: before what it stands for, or
after it. -/
inductive ConditionPlace where
  | before | after | either
deriving DecidableEq

/-- A name for a type, which may be left open. -/
def typeDeclaration (deeper : Grammar) (place : ConditionPlace) : Reader Unit := do
  word "type"
  discard name
  generics deeper
  if ← symbol? ":" then
    boundsUntil deeper fun tokens => isAtWord "where" tokens || isAt "=" tokens || isAt ";" tokens
  let found ← if place = .after then pure false else conditions? deeper
  if ← symbol? "=" then discard (deeper.type true)
  if place ≠ .before && !found then discard (conditions? deeper)
  symbol ";"

/-! ## Fields and variants -/

/-- A field with a name and a type. One without a name may have fields of its own. -/
def namedField (deeper : Grammar) : Reader Unit := do
  attributes
  discard visibility?
  let blank ← word? "_"
  if !blank then discard name
  symbol ":"
  match ← get with
  | .word "struct" :: rest => if blank then set rest; deeper.fields else refuse
  | .word "union" :: .group .curly content :: rest =>
    if blank then
      set (Token.group .curly content :: rest)
      deeper.fields
    else discard (deeper.type true)
  | _ => discard (deeper.type true)

/-- Fields with names and types, in curly brackets. -/
def namedFields (deeper : Grammar) : Reader Unit :=
  discard (inside .curly (separated (namedField deeper)))

/-- Fields without names, in round brackets. -/
def numberedFields (deeper : Grammar) : Reader Unit :=
  discard <| inside .round <| separated do
    attributes
    discard visibility?
    discard (deeper.type true)

/-- A type of values with fields, which may have names, numbers or be missing. -/
def recordDeclaration (deeper : Grammar) : Reader Unit := do
  word "struct"
  discard name
  generics deeper
  let found ← conditions? deeper
  if isAtGroup .curly (← get) then namedFields deeper
  else
    if !found && isAtGroup .round (← get) then
      numberedFields deeper
      discard (conditions? deeper)
    symbol ";"

/-- A variant of a type, perhaps with fields and a value. -/
def variant (deeper : Grammar) : Reader Unit := do
  attributes
  discard visibility?
  discard name
  if isAtGroup .curly (← get) then namedFields deeper
  else if isAtGroup .round (← get) then numberedFields deeper
  if ← symbol? "=" then discard (deeper.expression true)

/-- A type of variants. -/
def variantsDeclaration (deeper : Grammar) : Reader Unit := do
  word "enum"
  discard name
  generics deeper
  discard (conditions? deeper)
  discard (inside .curly (separated (variant deeper)))

/-- A type of values that share their place. -/
def unionDeclaration (deeper : Grammar) : Reader Unit := do
  word "union"
  discard name
  generics deeper
  discard (conditions? deeper)
  namedFields deeper

/-! ## Members -/

/-- A declaration in an interface. -/
def interfaceMember (deeper : Grammar) : Reader Unit := do
  attributes
  let isVisible ← visibility?
  let isDefault ← word? "default"
  if ← seesFunction then functionDeclaration deeper
  else
    match ← get with
    | .word "const" :: _ => constantDeclaration deeper
    | .word "type" :: _ => typeDeclaration deeper .after
    | _ => if isVisible || isDefault then refuse else ruleDeclaration false

/-- A declaration of what a type offers. -/
def implementationMember (deeper : Grammar) : Reader Unit := do
  attributes
  let isVisible ← visibility?
  let isDefault ← match ← get with
    | .word "default" :: rest => if isAt "!" rest then pure false else word? "default"
    | _ => pure false
  if ← seesFunction then functionDeclaration deeper
  else
    match ← get with
    | .word "const" :: _ => constantDeclaration deeper
    | .word "type" :: _ => typeDeclaration deeper .after
    | _ => if isVisible || isDefault then refuse else ruleDeclaration false

/-- A declaration of what is defined elsewhere. -/
def foreignMember (deeper : Grammar) : Reader Unit := do
  attributes
  let isVisible ← visibility?
  if ← seesFunction then functionDeclaration deeper
  else
    match ← get with
    | .word "static" :: _ => staticDeclaration deeper false
    | .word "type" :: _ => typeDeclaration deeper .either
    | _ => if isVisible then refuse else ruleDeclaration false

/-- What is defined elsewhere. -/
def foreignDeclaration (deeper : Grammar) : Reader Unit := do
  if !(← linkage?) then refuse
  members (foreignMember deeper)

/-! ## Interfaces -/

/-- An interface that types can have, or a name for a sum of interfaces. -/
def interfaceDeclaration (deeper : Grammar) : Reader Unit := do
  let isUnchecked ← word? "unsafe"
  let isAuto ← word? "auto"
  word "trait"
  discard name
  generics deeper
  if !isUnchecked && !isAuto && (← sees "=") then
    symbol "="
    boundsUntil deeper fun tokens => isAtWord "where" tokens || isAt ";" tokens
    discard (conditions? deeper)
    symbol ";"
  else
    if ← symbol? ":" then
      boundsUntil deeper fun tokens => isAtWord "where" tokens || isAtGroup .curly tokens
    discard (conditions? deeper)
    members (interfaceMember deeper)

/-- Whether parameters in angle brackets come next, and not a type that starts with
one. -/
def isAtGenerics : List Token → Bool
  | .mark '<' _ :: .mark '>' _ :: _ | .mark '<' _ :: .mark '#' _ :: _
  | .mark '<' _ :: .word "const" :: _ => true
  | .mark '<' _ :: token :: rest =>
    (match token with
      | .word w => isName w
      | .label => true
      | _ => false) &&
    (isAt ":" rest || isAt "," rest || isAt ">" rest || isAt "=" rest)
  | _ => false

/-- What a type offers, perhaps by an interface. -/
def implementationDeclaration (deeper : Grammar) : Reader Unit := do
  discard (word? "default")
  discard (word? "unsafe")
  word "impl"
  if isAtGenerics (← get) then generics deeper
  match ← get with
  | .word "const" :: rest | .mark '?' _ :: .word "const" :: rest => set rest
  | _ => pure ()
  match ← get with
  | .mark '!' _ :: rest => if !isAtGroup .curly rest then set rest
  | _ => pure ()
  discard (deeper.type true)
  if ← word? "for" then discard (deeper.type true)
  discard (conditions? deeper)
  members (implementationMember deeper)

/-! ## Modules -/

/-- What is brought in from elsewhere, by its path. -/
def imports (deeper : Grammar) : Reader Unit := repeatedly do
  match ← get with
  | .mark '*' _ :: rest =>
    set rest
    return false
  | .group .curly content :: rest =>
    discard (within content (separated deeper.imports))
    set rest
    return false
  | .word w :: rest =>
    if isStep w && w != "Self" then
      set rest
      if ← symbol? "::" then return true
      if ← word? "as" then nameOrBlank
      return false
    else refuse
  | _ => refuse

/-- Something that is brought in from elsewhere. -/
def importDeclaration (deeper : Grammar) : Reader Unit := do
  word "use"
  discard (symbol? "::")
  imports deeper
  symbol ";"

/-- Another program that is brought in. -/
def programDeclaration : Reader Unit := do
  word "extern"
  word "crate"
  if !(← word? "self") then discard name
  if ← word? "as" then nameOrBlank
  symbol ";"

/-- A module, here or elsewhere. -/
def moduleDeclaration (deeper : Grammar) : Reader Unit := do
  word "mod"
  discard name
  if !(← symbol? ";") then members deeper.declaration

/-- A named rule for making tokens. -/
def newRuleDeclaration : Reader Unit := do
  word "macro"
  discard name
  if isAtGroup .round (← get) then anyGroup
  if isAtGroup .curly (← get) then anyGroup else refuse

/-- A declaration that only its second word tells apart, from its first word
`unsafe`. -/
def uncheckedDeclaration (deeper : Grammar) : Reader Unit := do
  match ← get with
  | _ :: .word "trait" :: _ | _ :: .word "auto" :: .word "trait" :: _ => interfaceDeclaration deeper
  | _ :: .word "impl" :: _ => implementationDeclaration deeper
  | _ :: .word "extern" :: rest =>
    set (Token.word "extern" :: rest)
    foreignDeclaration deeper
  | _ :: .word "mod" :: rest =>
    set (Token.word "mod" :: rest)
    moduleDeclaration deeper
  | _ => refuse

def declaration (deeper : Grammar) : Reader Unit := do
  attributes
  let isVisible ← visibility?
  if ← seesFunction then functionDeclaration deeper
  else
    match ← get with
    | .word "extern" :: .word "crate" :: _ => programDeclaration
    | .word "extern" :: _ => if isVisible then refuse else foreignDeclaration deeper
    | .word "use" :: _ => importDeclaration deeper
    | .word "static" :: _ => staticDeclaration deeper true
    | .word "const" :: _ => constantDeclaration deeper
    | .word "unsafe" :: _ => uncheckedDeclaration deeper
    | .word "mod" :: _ => moduleDeclaration deeper
    | .word "type" :: _ => typeDeclaration deeper .before
    | .word "struct" :: _ => recordDeclaration deeper
    | .word "enum" :: _ => variantsDeclaration deeper
    | .word "trait" :: _ | .word "auto" :: .word "trait" :: _ => interfaceDeclaration deeper
    | .word "impl" :: _ => implementationDeclaration deeper
    | .word "macro" :: _ => newRuleDeclaration
    | .word "default" :: rest =>
      if !isAt "!" rest then implementationDeclaration deeper
      else if isVisible then refuse
      else ruleDeclaration true
    | .word "union" :: .word w :: _ =>
      if isName w then unionDeclaration deeper else refuse
    | .word "macro_rules" :: _ => ruleDeclaration true
    | _ => if isVisible then refuse else ruleDeclaration true

end BranchingTime.Expression
