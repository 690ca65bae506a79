/-
Three-valued answers. The answer to a formula is a pair of regions: a lower
bound of states where it surely holds, and an upper bound of states where it is
not ruled out. A state in the lower bound has the verdict `holds`, one outside
the upper bound the verdict `fails`, and one between the two is `undecided`.

Where new sets are built for the bounds, both have to fit (`Region.held`).
-/
import BranchingTime.Fault
import BranchingTime.Region

namespace BranchingTime

/-- Room for this many states in a set, if they fit. -/
def roomFor (count : Nat) : Except Fault Unit :=
  if count < setLimit then .ok () else .error .capacity

/-- A set that is built for the states of the region. -/
def Region.held (region : Region) : Except Fault Region := do
  roomFor region.size
  return region

/-- What is known of a formula in one state. -/
inductive Verdict where
  | holds
  | fails
  | undecided
deriving DecidableEq

structure Bounds where
  /-- The states where the formula surely holds. -/
  lower : Region
  /-- The states where the formula is not ruled out. -/
  upper : Region
deriving DecidableEq

namespace Bounds

/-- Bounds that leave nothing open. -/
def exact (states : Region) : Bounds := ⟨states, states⟩

/-- Bounds from two regions, of which the first must be inside the second. -/
def between (lower upper : Region) : Except Fault Bounds :=
  if lower ⊆ upper then .ok ⟨lower, upper⟩ else .error .crossedBounds

/-- Bounds from two sets that are built for them. -/
def build (lower upper : Region) : Except Fault Bounds := do
  between (← lower.held) (← upper.held)

def isExact (b : Bounds) : Bool := b.lower = b.upper

/-- The states where the formula is neither sure to hold nor ruled out. -/
def undecided (b : Bounds) : Region := b.upper \ b.lower

def verdict (b : Bounds) (state : Nat) : Verdict :=
  if state ∈ b.lower then .holds else if state ∈ b.upper then .undecided else .fails

theorem between_eq_ok {lower upper : Region} (h : lower ⊆ upper) :
    between lower upper = .ok ⟨lower, upper⟩ := by
  simp [between, h]

end Bounds

end BranchingTime
