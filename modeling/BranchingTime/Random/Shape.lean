/-
Random systems. A shape says how large a system is and how likely its parts are;
`generate` draws a system of that shape, state by state: whether its successors
are known, and which they are, whether it is in the frontier, and which
propositions it bears.
-/
import BranchingTime.Random.Draws
import BranchingTime.System.Build

namespace BranchingTime.Random

structure Shape where
  size : Nat := 20
  /-- The largest number of known edges from a state. -/
  maxDegree : Nat := 3
  /-- The probability of a state to be in the frontier. -/
  frontier : Float := 0.2
  /-- The probability of a state to have no known successors. -/
  unexplored : Float := 0.1
  /-- The probability of a state to bear a given proposition. -/
  label : Float := 0.3
  propositions : List String := ["p", "q"]

namespace Shape

/-- The shape with everything explored. -/
def explored (shape : Shape) : Shape := { shape with frontier := 0.0, unexplored := 0.0 }

variable {σ : Type}

/-- As many states below `size` as asked for. -/
def drawTargets (draws : Draws σ) (size : Nat) : Nat → Drawing σ (List Nat)
  | 0 => return []
  | count + 1 => do
    let target ← draws.choose size
    return target :: (← drawTargets draws size count)

/-- The successors of a state. -/
def drawEdges (shape : Shape) (draws : Draws σ) (size state : Nat) :
    Drawing σ (List BuildStep) := do
  if ← draws.decide shape.unexplored then return []
  if shape.maxDegree + 1 ≥ wordCount then throw .sumOverflow
  let degree ← draws.choose (shape.maxDegree + 1)
  let targets ← drawTargets draws size degree
  return .deadEnd state :: targets.map (.edge state)

/-- The propositions that a state bears, of those listed. -/
def drawLabels (shape : Shape) (draws : Draws σ) (state : Nat) :
    List String → Drawing σ (List BuildStep)
  | [] => return []
  | name :: rest => do
    let bears ← draws.decide shape.label
    let more ← drawLabels shape draws state rest
    return if bears then .label name state :: more else more

/-- All about a state. -/
def drawState (shape : Shape) (draws : Draws σ) (size state : Nat) :
    Drawing σ (List BuildStep) := do
  let edges ← drawEdges shape draws size state
  let inFrontier ← draws.decide shape.frontier
  let labels ← drawLabels shape draws state shape.propositions
  return edges ++ (if inFrontier then [.frontier state] else []) ++ labels

/-- All about the listed states. -/
def drawStates (shape : Shape) (draws : Draws σ) (size : Nat) :
    List Nat → Drawing σ (List BuildStep)
  | [] => return []
  | state :: rest => do
    let steps ← drawState shape draws size state
    return steps ++ (← drawStates shape draws size rest)

/-- A random system of this shape, with one state at least. -/
def generate (shape : Shape) (draws : Draws σ) (source : σ) : Except Fault System := do
  let size := max shape.size 1
  let (steps, _) ← drawStates shape draws size (List.range size) source
  (System.build size (shape.propositions.map .proposition ++ steps)).mapError .unsound

/-- The random system of this shape for a seed. -/
def ofSeed (shape : Shape) (seed : UInt64) : Except Fault System :=
  shape.generate .ofStream (Stream.ofSeed seed)

end Shape

end BranchingTime.Random
