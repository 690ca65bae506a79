/-
The two texts of a system, which `read` takes back. Edges are sorted, and so are
the states of the frontier, the propositions by index, and the labels by state. A
state of the frontier with no known successors is written as an edge to the sink.
A known dead end that is not in the frontier has no lines at all, like a state
whose successors nobody has looked for.
-/
import BranchingTime.System.Reading

namespace BranchingTime.System

/-- Numbers with single blanks between them. -/
def spaced (numbers : List Nat) : String := " ".intercalate (numbers.map toString)

/-- The lines of the edges from one state. -/
def edgeLines (sys : System) (sink : Int) (source : Nat) (targets : Region) : List String :=
  if targets.isEmpty && sys.frontier.contains source then [s!"{source} -> {sink}"]
  else targets.toList.map fun target => s!"{source} -> {target}"

/-- The lines of a text, each with a line feed at its end. -/
def unlines (lines : List String) : String := String.join (lines.map (· ++ "\n"))

def writeTransitions (sys : System) (sink : Int) : String :=
  unlines (sys.edges.toList.flatMap (fun (source, targets) => sys.edgeLines sink source targets) ++
    [spaced sys.frontier.toList, toString sys.size])

/-- The propositions in the order of their indices; names with one index in
alphabetical order. -/
def propositions (sys : System) : List (String × Nat) :=
  sys.names.toList.mergeSort fun a b => a.2 ≤ b.2

/-- The indices of the propositions that a state bears. -/
def indicesAt (sys : System) (state : Nat) : List Nat :=
  (sys.labels.toList.filter (·.2.contains state)).map (·.1)

/-- The states that bear any proposition. -/
def labelledStates (sys : System) : Region :=
  (Std.ExtTreeSet.ofList (sys.labels.toList.flatMap (·.2.toList)) : Region).filter (· < sys.size)

def writeLabels (sys : System) (marker : String) : String :=
  unlines (" ".intercalate (sys.propositions.map fun (name, index) => s!"{index}={marker}{name}") ::
    sys.labelledStates.toList.map fun state => s!"{state}: {spaced (sys.indicesAt state)}")

end BranchingTime.System
