/-
The operators of the core, as functions from the bounds of the operand to bounds.
They build new sets for these, which have to fit. A state of the frontier may have
successors that are not known: they can satisfy an existential formula, or violate
a universal one, so such a state is never in the lower bound of `AX` and always in
the upper bounds of `EX` and `AX`. It has a successor all the same, known or not.
-/
import BranchingTime.Fixpoint
import BranchingTime.System.Basic

namespace BranchingTime.System

/-- Whether the state has a known successor. -/
def hasSuccessor (sys : System) (s : Nat) : Bool :=
  match sys.successors s with
  | some targets => !targets.isEmpty
  | none => false

/-- Whether some known successor of the state is in the region. -/
def leadsInto (sys : System) (region : Region) (s : Nat) : Bool :=
  match sys.successors s with
  | some targets => targets.meets region
  | none => false

/-- Whether all known successors of the state are in the region. -/
def staysIn (sys : System) (region : Region) (s : Nat) : Bool :=
  match sys.successors s with
  | some targets => targets.isWithin region
  | none => true

/-- Whether the state may have successors that are not known. -/
def isOpen (sys : System) (s : Nat) : Bool := sys.frontier.contains s

/-- Bounds of `!f`. -/
def negation (sys : System) (b : Bounds) : Except Fault Bounds := do
  Bounds.between (← sys.complement b.upper) (← sys.complement b.lower)

/-! ## One step -/

/-- Bounds of `EX true`: the states with a successor, known or not. -/
def someNext (sys : System) : Except Fault Bounds :=
  let region := sys.states.filter fun s => sys.hasSuccessor s || sys.isOpen s
  Bounds.build region region

/-- Bounds of `EX f`, for `f` other than `true`. -/
def existsNext (sys : System) (b : Bounds) : Except Fault Bounds :=
  Bounds.build (sys.states.filter (sys.leadsInto b.lower))
    (sys.states.filter fun s => sys.leadsInto b.upper s || sys.isOpen s)

/-- Bounds of `AX f`. -/
def forallNext (sys : System) (b : Bounds) : Except Fault Bounds :=
  Bounds.build (sys.states.filter fun s => !sys.isOpen s && sys.staysIn b.lower s)
    (sys.states.filter fun s => sys.isOpen s || sys.staysIn b.upper s)

/-! ## Paths -/

theorem leadsInto_mono (sys : System) {a b : Region} {s : Nat} (h : a ⊆ b)
    (hs : sys.leadsInto a s = true) : sys.leadsInto b s = true := by
  unfold leadsInto at *
  split
  · rw [Region.meets_iff]
    simp only [‹sys.successors s = _›, Region.meets_iff] at hs
    exact hs.imp fun t ht => ⟨ht.1, h t ht.2⟩
  · simp_all

/-- A path inside the region goes on from here for sure: to a known successor in
it, or by ending in a dead end. -/
def surelyGoesOn (sys : System) : Rule where
  supports region s :=
    if sys.hasSuccessor s then sys.leadsInto region s else !sys.isOpen s
  mono h hs := by
    split
    · simp_all [sys.leadsInto_mono h]
    · simp_all

/-- A path inside the region may go on from here: as above, or out of sight. -/
def maybeGoesOn (sys : System) : Rule where
  supports region s :=
    if sys.hasSuccessor s then sys.leadsInto region s || sys.isOpen s else true
  mono h hs := by
    split
    · simp only [*, if_true, Bool.or_eq_true] at hs ⊢
      exact hs.imp_left (sys.leadsInto_mono h)
    · rfl

/-- A known successor is in the region. -/
def surelyEnters (sys : System) : Rule where
  supports region s := sys.leadsInto region s
  mono h hs := sys.leadsInto_mono h hs

/-- A successor, known or not, may be in the region. -/
def maybeEnters (sys : System) : Rule where
  supports region s := sys.isOpen s || sys.leadsInto region s
  mono h hs := by
    simp only [Bool.or_eq_true] at hs ⊢
    exact hs.imp_right (sys.leadsInto_mono h)

end BranchingTime.System
