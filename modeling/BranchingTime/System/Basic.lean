/-
Partially explored transition systems. States are numbered from zero. A state
may have known successors (perhaps none: a dead end), or nobody has looked for
them. States of the frontier may have further successors that are not known yet.
Propositions have names and indices; an index is labelled with a region.

`checked` lets a system through if all states that it mentions are below its
size and all labelled indices have a name (`Valid`), and names the first
violation otherwise.
-/
import BranchingTime.Bounds
import Std.Data.ExtTreeMap.Lemmas

namespace BranchingTime

structure System where
  /-- The number of states. -/
  size : Nat
  /-- The known successors, for the states where they are known. -/
  edges : Std.ExtTreeMap Nat Region
  /-- The states that bear a proposition, by its index. -/
  labels : Std.ExtTreeMap Nat Region
  /-- The index of a proposition, by its name. -/
  names : Std.ExtTreeMap String Nat
  /-- The states that may have successors not known yet. -/
  frontier : Region
deriving DecidableEq

namespace System

/-- The system of `size` states of which nothing is known. -/
def unexplored (size : Nat) : System := ⟨size, ∅, ∅, ∅, ∅⟩

/-- The known successors of a state, if anybody has looked for them. -/
def successors (sys : System) (state : Nat) : Option Region := sys.edges[state]?

/-- All states of the system. -/
def states (sys : System) : Region := .upTo sys.size

/-- A set of all states. The room for them is asked for before the first one is put in. -/
def everyState (sys : System) : Except Fault Region := do
  roomFor sys.size
  return sys.states

/-- The states that are not in `region`. -/
def outside (sys : System) (region : Region) : Region :=
  sys.states.filter (!region.contains ·)

/-- A set of the states that are not in `region`. -/
def complement (sys : System) (region : Region) : Except Fault Region :=
  (sys.outside region).held

def index? (sys : System) (name : String) : Option Nat := sys.names[name]?

/-- The states that bear the proposition of this index. -/
def labelled (sys : System) (index : Nat) : Region := sys.labels.getD index ∅

/-- The number of known edges. -/
def edgeCount (sys : System) : Nat :=
  sys.edges.toList.foldl (fun count (_, targets) => count + targets.size) 0

/-- Whether no state can have successors that are not known. -/
def isExplored (sys : System) : Bool := sys.frontier.isEmpty

/-! ## Validity -/

/-- The error of a state that is not below the size. -/
def outOfRange? (sys : System) (state : Nat) : Option SystemError :=
  if state < sys.size then none else some (.stateOutOfRange state sys.size)

/-- The error of the first state of a region that is not below the size. -/
def regionError? (sys : System) (region : Region) : Option SystemError :=
  region.toList.findSome? sys.outOfRange?

/-- Whether some name has this index. -/
def isNamed (sys : System) (index : Nat) : Bool := sys.names.toList.any (·.2 == index)

/-- The first violation: in the edges (a source before its targets), then in the
labels (an index before its states), then in the frontier. -/
def violation? (sys : System) : Option SystemError :=
  (sys.edges.toList.findSome? fun (source, targets) =>
      (sys.outOfRange? source).or (sys.regionError? targets))
  |>.or (sys.labels.toList.findSome? fun (index, states) =>
      if sys.isNamed index then sys.regionError? states else some (.unnamedIndex index))
  |>.or (sys.regionError? sys.frontier)

/-- The system itself, unless something in it is out of range or has no name. -/
def checked (sys : System) : Except SystemError System :=
  match sys.violation? with
  | none => .ok sys
  | some error => .error error

/-- All states that the system mentions are below its size, and every labelled
index has a name. -/
structure Valid (sys : System) : Prop where
  sources : ∀ {s : Nat} {ts : Region}, sys.successors s = some ts → s < sys.size
  targets : ∀ {s t : Nat} {ts : Region}, sys.successors s = some ts → t ∈ ts → t < sys.size
  named : ∀ {i : Nat} {ss : Region}, sys.labels[i]? = some ss → ∃ name, sys.index? name = some i
  labelled : ∀ {i s : Nat} {ss : Region}, sys.labels[i]? = some ss → s ∈ ss → s < sys.size
  frontier : ∀ {s : Nat}, s ∈ sys.frontier → s < sys.size

theorem outOfRange?_eq_none {sys : System} {s : Nat} :
    sys.outOfRange? s = none ↔ s < sys.size := by
  simp [outOfRange?]

theorem regionError?_eq_none {sys : System} {region : Region} :
    sys.regionError? region = none ↔ ∀ s ∈ region, s < sys.size := by
  simp [regionError?, outOfRange?_eq_none]

theorem isNamed_iff {sys : System} {i : Nat} :
    sys.isNamed i = true ↔ ∃ name, sys.index? name = some i := by
  simp [isNamed, index?]

/-- The check finds nothing exactly in a valid system. -/
theorem violation?_eq_none {sys : System} : sys.violation? = none ↔ sys.Valid := by
  simp only [violation?, Option.or_eq_none_iff, List.findSome?_eq_none_iff, Prod.forall,
    Std.ExtTreeMap.mem_toList_iff_getElem?_eq_some, outOfRange?_eq_none, regionError?_eq_none]
  constructor
  · rintro ⟨⟨hedges, hlabels⟩, hfrontier⟩
    have hnamed : ∀ i states, sys.labels[i]? = some states →
        sys.isNamed i = true ∧ ∀ s ∈ states, s < sys.size := by
      intro i states h
      have := hlabels i states h
      split at this
      · exact ⟨‹_›, regionError?_eq_none.1 this⟩
      · cases this
    exact ⟨fun h => (hedges _ _ h).1, fun h => (hedges _ _ h).2 _,
      fun h => isNamed_iff.1 (hnamed _ _ h).1, fun h => (hnamed _ _ h).2 _, hfrontier _⟩
  · intro v
    refine ⟨⟨fun s ts h => ⟨v.sources h, fun t => v.targets h⟩, fun i states h => ?_⟩,
      fun s => v.frontier⟩
    rw [if_pos (isNamed_iff.2 (v.named h)), regionError?_eq_none]
    exact fun s => v.labelled h

theorem checked_eq_ok {sys sys' : System} : sys.checked = .ok sys' ↔ sys' = sys ∧ sys.Valid := by
  rw [checked, ← violation?_eq_none]
  cases sys.violation? <;> simp [eq_comm]

end System

end BranchingTime
