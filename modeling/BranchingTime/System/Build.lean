/-
Building a system step by step. Each step adds to what is known; the order of
the steps matters only for the indices of new names, which are counted up from
zero. Steps do not look at the size of the system: `build` checks that at the
end.
-/
import BranchingTime.System.Basic

namespace BranchingTime

/-- One thing found out about a system. -/
inductive BuildStep where
  /-- There is an edge. -/
  | edge (source target : Nat)
  /-- There is an edge to somewhere unknown. -/
  | unknownEdge (source : Nat)
  /-- The successors have been looked for. -/
  | deadEnd (state : Nat)
  /-- There may be further successors. -/
  | frontier (state : Nat)
  /-- The state bears the proposition. -/
  | label (name : String) (state : Nat)
  /-- There is a proposition of this name. -/
  | proposition (name : String)

namespace System

/-- From now on the successors of the state are known, all of those found. -/
def explore (sys : System) (state : Nat) : System :=
  { sys with edges := sys.edges.insertIfNew state ∅ }

def addEdge (sys : System) (source target : Nat) : System :=
  { sys with edges := sys.edges.insert source ((sys.edges.getD source ∅).insert target) }

def addFrontier (sys : System) (state : Nat) : System :=
  { sys with frontier := sys.frontier.insert state }

/-- The index of a name; a new name gets the number of names so far. -/
def indexFor (sys : System) (name : String) : Nat := (sys.index? name).getD sys.names.size

/-- Declare a proposition, unless there is one of this name. -/
def declare (sys : System) (name : String) : System :=
  { sys with names := sys.names.insertIfNew name sys.names.size }

def addLabel (sys : System) (index state : Nat) : System :=
  { sys with labels := sys.labels.insert index ((sys.labelled index).insert state) }

/-- Take in one thing found out. -/
def step (sys : System) : BuildStep → System
  | .edge source target => sys.addEdge source target
  | .unknownEdge source => (sys.explore source).addFrontier source
  | .deadEnd state => sys.explore state
  | .frontier state => sys.addFrontier state
  | .label name state => (sys.declare name).addLabel (sys.indexFor name) state
  | .proposition name => sys.declare name

/-- The system of `size` states that a list of steps describes. -/
def ofSteps (size : Nat) (steps : List BuildStep) : System :=
  steps.foldl step (unexplored size)

def build (size : Nat) (steps : List BuildStep) : Except SystemError System :=
  (ofSteps size steps).checked

/-! ## Small systems to try formulas on -/

/-- State 0 leads to state 1, where `p` holds. -/
def twoStates : System := ofSteps 2 [.edge 0 1, .label "p" 1]

/-- One state of which nothing is known. -/
def singleFrontier : System := ofSteps 1 [.frontier 0]

/-- A line of states, at least one, with `q` at its end. -/
def chain (length : Nat) : System :=
  let n := max length 1
  ofSteps n ((List.range (n - 1)).map (fun s => .edge s (s + 1)) ++ [.label "q" (n - 1)])

/-- A circle of states, at least one, with `p` at its start. The last state has
an edge to somewhere unknown besides. -/
def ring (length : Nat) : System :=
  let n := max length 1
  ofSteps n ((List.range n).map (fun s => .edge s ((s + 1) % n)) ++
    [.unknownEdge (n - 1), .label "p" 0])

end System

end BranchingTime
