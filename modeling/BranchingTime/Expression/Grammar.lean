/-
Readers of expressions. A reader takes tokens from the start of a list and leaves the
others, or it stops. The parts of expressions contain one another: types contain
expressions, expressions contain patterns and statements, and so on. So a reader of
one part is given the readers of the parts inside it, as a `Grammar`.
-/
import BranchingTime.Expression.Joint

namespace BranchingTime.Expression

/-- Why reading stops. -/
inductive Stop where
  /-- The tokens are no expression. -/
  | refused
  /-- There is a literal of a kind that expressions do not have. -/
  | unrecognized (literal : String)
  /-- A type of functions has more parameters than there is room for. -/
  | crowded
deriving DecidableEq

/-- A reader takes tokens from a list. A second state says whether tokens were left in
brackets that were read: reading goes on after these, and is refused at its end. -/
abbrev Reader := StateT (List Token) (StateT Bool (Except Stop))

/-- Words that are no names. -/
def keywords : List String :=
  ["_", "abstract", "as", "become", "box", "break", "const", "continue", "crate", "do", "else",
    "enum", "extern", "false", "final", "fn", "for", "if", "impl", "in", "let", "loop", "macro",
    "match", "mod", "move", "mut", "override", "priv", "pub", "ref", "return", "Self", "self",
    "static", "struct", "super", "trait", "true", "type", "typeof", "unsafe", "unsized", "use",
    "virtual", "where", "while", "yield"]

def isName (word : String) : Bool := !keywords.contains word

/-- Whether a word may be a part of a path: names, and those for places in a program. -/
def isStep (word : String) : Bool :=
  isName word || word == "self" || word == "Self" || word == "super" || word == "crate"

/-- Whether the tokens start with a name. -/
def isAtName : List Token → Bool
  | .word word :: _ => isName word
  | _ => false

/-- Whether the tokens start with a word. -/
def isAtWord (word : String) : List Token → Bool
  | .word w :: _ => w == word
  | _ => false

/-- Whether the tokens start with a group in these brackets. -/
def isAtGroup (bracket : Bracket) : List Token → Bool
  | .group b _ :: _ => b = bracket
  | _ => false

namespace Reader

def refuse {α : Type} : Reader α := throw .refused

/-- Whether no token is left. -/
def isDone : Reader Bool := return (← get).isEmpty

/-- Whether a symbol comes next. -/
def sees (symbol : String) : Reader Bool := return isAt symbol (← get)

/-- Take a symbol if it comes next. -/
def symbol? (symbol : String) : Reader Bool := do
  match afterSymbol? symbol.toList (← get) with
  | some rest => set rest; return true
  | none => return false

def symbol (symbol : String) : Reader Unit := do
  if !(← symbol? symbol) then refuse

/-- Take a word if it comes next. -/
def word? (word : String) : Reader Bool := do
  match ← get with
  | .word w :: rest => if w == word then set rest; return true else return false
  | _ => return false

def word (word : String) : Reader Unit := do
  if !(← word? word) then refuse

def name : Reader String := do
  match ← get with
  | .word w :: rest => if isName w then set rest; return w else refuse
  | _ => refuse

/-- Take a label if one comes next. -/
def label? : Reader Bool := do
  match ← get with
  | .label :: rest => set rest; return true
  | _ => return false

def label : Reader Unit := do
  if !(← label?) then refuse

/-- What a reader leaves of tokens, if it does not stop. -/
def after? {α : Type} (reader : Reader α) (tokens : List Token) : Option (List Token) :=
  match (reader.run tokens).run false with
  | .ok ((_, rest), _) => some rest
  | .error _ => none

/-- Note that tokens are left where there should be none. -/
def noteLeft : Reader Unit := StateT.lift (set true)

/-- Run a reader that has to take all of these tokens. -/
def within {α : Type} (content : List Token) (reader : Reader α) : Reader α := do
  let (a, left) ← StateT.lift (reader.run content)
  if !left.isEmpty then noteLeft
  return a

/-- Take a group and read what is in it. -/
def inside {α : Type} (bracket : Bracket) (reader : Reader α) : Reader α := do
  match ← get with
  | .group b content :: rest =>
    if b = bracket then
      let a ← within content reader
      set rest
      return a
    else refuse
  | _ => refuse

/-- A group with anything in it. -/
def anyGroup : Reader Unit := do
  match ← get with
  | .group _ _ :: rest => set rest
  | _ => refuse

/-- Run a reader until it says to stop, at most `steps` times. -/
def repeatSteps (step : Reader Bool) : (steps : Nat) → Reader Unit
  | 0 => refuse
  | steps + 1 => do if ← step then repeatSteps step steps

/-- Run a reader until it says to stop. It has to take a token whenever it does not. -/
def repeatedly (step : Reader Bool) : Reader Unit := do
  repeatSteps step ((← get).length + 1)

/-- Items with commas between them, and perhaps after them, in at most `steps` steps. -/
def separatedSteps {α : Type} (item : Reader α) : (steps : Nat) → Reader (List α)
  | 0 => refuse
  | steps + 1 => do
    if ← isDone then return []
    let a ← item
    if ← isDone then return [a]
    symbol ","
    return a :: (← separatedSteps item steps)

/-- All tokens, as items with commas between them and perhaps after them. -/
def separated {α : Type} (item : Reader α) : Reader (List α) := do
  separatedSteps item ((← get).length + 1)

/-! ## Literals -/

/-- Take a literal if one comes next. -/
def literal? : Reader (Option Literal) := do
  match ← get with
  | .literal (.foreign written) :: _ => throw (.unrecognized written)
  | .literal value :: rest => set rest; return some value
  | _ => return none

/-- Take a literal, a truth value or a negative number if one comes next. -/
def anyLiteral? : Reader Bool := do
  match ← get with
  | .word "true" :: rest | .word "false" :: rest
  | .mark '-' _ :: .literal (.integer _ _) :: rest
  | .mark '-' _ :: .literal (.decimal _) :: rest => set rest; return true
  | _ => return (← literal?).isSome

/-- From this number on, no field can have it. -/
def fieldLimit : Nat := 4294967296

/-- A field, by its name or by its number; whether it has a name. -/
def field : Reader Bool := do
  if isAtName (← get) then
    discard name
    return true
  else
    match ← literal? with
    | some (.integer value false) => if value < fieldLimit then return false else refuse
    | _ => refuse

/-! ## Attributes -/

/-- A path of steps without arguments. -/
def plainPath : Reader Unit := do
  discard (symbol? "::")
  repeatedly do
    match ← get with
    | .word w :: rest =>
      if isStep w then
        set rest
        symbol? "::"
      else refuse
    | _ => refuse

/-- An attribute, from after the marks at its start. -/
def oneAttribute : Reader Unit := do
  match ← get with
  | .group .square content :: rest =>
    discard (StateT.lift (plainPath.run content))
    set rest
  | _ => refuse

/-- The attributes of what comes after them. -/
def attributes : Reader Unit := repeatedly do
  if ← symbol? "#" then
    oneAttribute
    return true
  else return false

/-- The attributes of what they are in. -/
def innerAttributes : Reader Unit := repeatedly do
  match ← get with
  | .mark '#' _ :: .mark '!' _ :: rest =>
    set rest
    oneAttribute
    return true
  | _ => return false

end Reader

/-! ## Parts of expressions -/

/-- What may be in brackets after a step of a path. -/
inductive Arguments where
  | none
  /-- In angle brackets, which may have nothing in them. -/
  | angled (isEmpty : Bool)
  | parenthesized
deriving DecidableEq

structure Segment where
  name : String
  arguments : Arguments

structure Path where
  /-- Whether a type in angle brackets comes first. -/
  qualified : Bool
  /-- Whether it starts at the root. -/
  rooted : Bool
  segments : List Segment

namespace Path

/-- Whether no step has arguments. -/
def isPlain (path : Path) : Bool := path.segments.all (·.arguments = .none)

/-- Whether the last step has no arguments, though it may have angle brackets. -/
def endsBare (path : Path) : Bool :=
  match path.segments.getLast? with
  | some segment => segment.arguments = .none || segment.arguments = .angled true
  | none => true

/-- The expression that a path is: one name, or no name at all. -/
def tree : Path → Tree
  | ⟨false, false, [⟨name, .none⟩]⟩ => .word name
  | _ => .path

end Path

/-- What a type looks like, as far as it matters for what may come after it. -/
inductive TypeForm where
  | path (path : Path)
  | parenthesized
  /-- A sum of bounds; whether it is a single one. -/
  | bounds (single : Bool)
  | other

/-- Readers of the parts of expressions. Where `braces` is false, a curly bracket after
a path does not belong to it. -/
structure Grammar where
  expression : (braces : Bool) → Reader Tree
  /-- An expression with the operators before it and the calls, fields and indices after
  it. -/
  operand : (braces : Bool) → Reader Tree
  /-- What `left` and the joints after it make, as far as these have the given strength
  at least. -/
  joined : (braces : Bool) → (left : Tree) → (least : Strength) → Reader Tree
  /-- A type; whether it may be a sum of bounds. -/
  type : (sums : Bool) → Reader TypeForm
  /-- A bound; whether it is no label. -/
  bound : Reader Bool
  pattern : Reader Unit
  /-- An expression at the start of a statement or of a branch of a choice: one that ends
  with a block ends there. -/
  early : Reader Tree
  /-- All tokens, as statements. -/
  statements : Reader Unit
  declaration : Reader Unit
  /-- What is brought in from elsewhere, by its path. -/
  imports : Reader Unit
  /-- Fields with names and types, in curly brackets. -/
  fields : Reader Unit

namespace Grammar

/-- The grammar of nothing. -/
def empty : Grammar where
  expression _ := Reader.refuse
  operand _ := Reader.refuse
  joined _ _ _ := Reader.refuse
  type _ := Reader.refuse
  bound := Reader.refuse
  pattern := Reader.refuse
  early := Reader.refuse
  statements := Reader.refuse
  declaration := Reader.refuse
  imports := Reader.refuse
  fields := Reader.refuse

end Grammar

/-- Statements in curly brackets. -/
def block (deeper : Grammar) : Reader Unit := Reader.inside .curly deeper.statements

/-- Statements in curly brackets, with attributes of the block before them. -/
def attributedBlock (deeper : Grammar) : Reader Unit :=
  Reader.inside .curly do
    Reader.innerAttributes
    deeper.statements

end BranchingTime.Expression
