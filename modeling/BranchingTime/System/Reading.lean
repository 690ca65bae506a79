/-
Systems from text. The transition text has one edge a line, `source -> target`;
then a line with the states of the frontier, and a last line with the number of
states. An edge to the sink makes its source a state of the frontier. The label
text declares the propositions in its first line, as `index=name` with a marker
before each name, and goes on with `state: indices`. Edges and labels of state -1
stand for the start and are passed over. Blank lines at the end do not count.

Both texts are read from the top, except that the last two lines of the
transition text come first; the first thing wrong is reported with its line.
-/
import BranchingTime.Files
import BranchingTime.Renaming
import BranchingTime.System.Build
import BranchingTime.Text.Blank
import BranchingTime.Text.Integer
import BranchingTime.Text.Printable

namespace BranchingTime

open Text

/-- How systems are written as text. -/
structure TextFormat where
  /-- The target of edges that lead somewhere unknown. -/
  sink : Int := -2
  /-- What stands before the name of every proposition. -/
  marker : String := "prop_"
  /-- The names to use for the propositions. -/
  aliases : Renaming := ∅

/-- What is wrong with a line. -/
inductive LineProblem where
  | unexpectedToken (content : String)
  | invalidNumber (content : String) (cause : IntegerError)
  | stateOutOfRange (state : Int) (size : Nat)
  | unknownProposition (index : Nat)
  | repeatedProposition (name : String)
  /-- The last two lines are missing. -/
  | missingFooter
deriving DecidableEq

structure LineError where
  line : Nat
  problem : LineProblem
deriving DecidableEq

/-- Why a system cannot be read. -/
inductive ReadError where
  | unreadable (file : String) (cause : FileError)
  | malformed (file : String) (error : LineError)
deriving DecidableEq

namespace LineProblem

def message : LineProblem → String
  | unexpectedToken content => s!"Unexpected token: {quoted content}"
  | invalidNumber content _ => s!"Cannot parse an integer from {quoted content}"
  | stateOutOfRange state size =>
    s!"State {state} is out of range for a system with {size} states"
  | unknownProposition index => s!"Proposition index {index} was not declared"
  | repeatedProposition name => s!"Proposition {name} is declared twice"
  | missingFooter => "File ends before the partial states and the state count"

end LineProblem

namespace ReadError

def file : ReadError → String
  | unreadable file _ => file
  | malformed file _ => file

def line? : ReadError → Option Nat
  | unreadable _ _ => none
  | malformed _ error => some error.line

/-- The text of the error behind this one. -/
def cause? : ReadError → Option String
  | unreadable _ cause => some cause.message
  | malformed _ ⟨_, .invalidNumber _ cause⟩ => some cause.message
  | malformed _ _ => none

def message : ReadError → String
  | unreadable file cause => s!"Cannot read {file}: {cause.message}"
  | malformed file ⟨line, problem⟩ => s!"{file}:{line}: {problem.message}"

end ReadError

namespace System

/-! ## Numbers -/

def readIndex (content : List Char) : Except LineProblem Nat :=
  (readNat (trim content)).mapError (.invalidNumber (.ofList content))

def readSigned (content : List Char) : Except LineProblem Int :=
  (readInt (trim content)).mapError (.invalidNumber (.ofList content))

/-- A state of a system of `size` states. -/
def readState (size : Nat) (content : List Char) : Except LineProblem Nat := do
  let state ← readSigned content
  if 0 ≤ state ∧ state < size then return state.toNat
  else throw (.stateOutOfRange state size)

/-! ## Lines -/

/-- The lines of a text, without blank ones at the end. -/
def contentLines (text : String) : List (List Char) :=
  ((lines text.toList).reverse.dropWhile (·.all isBlank)).reverse

/-- Take in numbered lines one after another. -/
def takeLines (take : System → List Char → Except LineProblem System) :
    Nat → List (List Char) → System → Except LineError System
  | _, [], sys => .ok sys
  | number, line :: rest, sys =>
    match take sys line with
    | .error problem => .error ⟨number, problem⟩
    | .ok sys => takeLines take (number + 1) rest sys

/-! ## Transitions -/

/-- Take in the line of the frontier. -/
def takeFrontier (sys : System) (line : List Char) : Except LineProblem System :=
  (words line).foldlM (fun sys word => return sys.addFrontier (← readState sys.size word)) sys

/-- Take in an edge. -/
def takeEdge (sink : Int) (sys : System) (line : List Char) : Except LineProblem System :=
  match cut? ['-', '>'] line with
  | none => .error (.unexpectedToken (.ofList line))
  | some (before, after) => do
    if (← readSigned (trim before)) = -1 then return sys
    let source ← readState sys.size (trim before)
    if (← readSigned (trim after)) = sink then
      return (sys.explore source).addFrontier source
    else
      return sys.addEdge source (← readState sys.size (trim after))

/-- The states, the frontier and the edges of a system. -/
def readTransitions (sink : Int) (text : String) : Except LineError System :=
  let content := contentLines text
  match content.reverse with
  | count :: frontier :: edges => do
    let size ← (readIndex count).mapError fun problem => ⟨content.length, problem⟩
    let sys ← takeLines takeFrontier (content.length - 1) [frontier] (unexplored size)
    takeLines (takeEdge sink) 1 edges.reverse sys
  | _ => .error ⟨content.length, .missingFooter⟩

/-! ## Labels -/

/-- The name of a declared proposition. -/
def readName? (format : TextFormat) (text : List Char) : Option String :=
  if format.marker.toList.isPrefixOf text then
    match text.drop format.marker.length with
    | [] => none
    | name => some (format.aliases.apply (.ofList name))
  else none

/-- Take in the declaration of a proposition. -/
def takeDeclaration (format : TextFormat) (sys : System) (word : List Char) :
    Except LineProblem System :=
  match cut? ['='] word with
  | none => .error (.unexpectedToken (.ofList word))
  | some (before, after) => do
    let index ← readIndex before
    match readName? format after with
    | none => throw (.unexpectedToken (.ofList word))
    | some name =>
      if sys.isNamed index then throw (.unexpectedToken (.ofList word))
      if name ∈ sys.names then throw (.repeatedProposition name)
      return { sys with names := sys.names.insert name index }

/-- Take in the line that declares the propositions. -/
def takeHeader (format : TextFormat) (sys : System) (line : List Char) :
    Except LineProblem System :=
  (words line).foldlM (takeDeclaration format) sys

/-- Take in the index of a proposition that a state bears. -/
def takeLabel (state : Nat) (sys : System) (word : List Char) : Except LineProblem System := do
  let index ← readIndex word
  if sys.isNamed index then return sys.addLabel index state
  else throw (.unknownProposition index)

/-- Take in the labels of a state. -/
def takeLabels (sys : System) (line : List Char) : Except LineProblem System :=
  match cut? [':'] line with
  | none => .error (.unexpectedToken (.ofList line))
  | some (before, after) => do
    if (← readSigned (trim before)) = -1 then return sys
    let state ← readState sys.size (trim before)
    (words after).foldlM (takeLabel state) sys

/-- Add the propositions and the labels to a system. -/
def readLabels (format : TextFormat) (text : String) (sys : System) : Except LineError System :=
  match contentLines text with
  | [] => .ok sys
  | header :: rest => do
    let sys ← takeLines (takeHeader format) 1 [header] sys
    takeLines takeLabels 2 rest sys

/-! ## Both texts -/

/-- A system from its two texts, which messages call by the given names. -/
def readFrom (format : TextFormat) (transitionFile transitions labelFile labels : String) :
    Except ReadError System := do
  let sys ← (readTransitions format.sink transitions).mapError (.malformed transitionFile)
  (readLabels format labels sys).mapError (.malformed labelFile)

/-- A system from its two texts. -/
def read (format : TextFormat) (transitions labels : String) : Except ReadError System :=
  readFrom format "<transitions>" transitions "<labels>" labels

end System

end BranchingTime
