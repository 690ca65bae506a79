/-
Faults: the ways in which a computation breaks off without an answer. They are
kept apart from the errors that report a bad input, such as what can be wrong with
the parts of a system, because a fault ends the whole request, or the one evaluation
of a batch in which it arises.
-/
import BranchingTime.Formula.Basic

namespace BranchingTime

/-- What can be wrong with the parts of a system. -/
inductive SystemError where
  /-- A state is not below the number of states. -/
  | stateOutOfRange (state size : Nat)
  /-- A labelled index has no name. -/
  | unnamedIndex (index : Nat)
deriving DecidableEq

namespace SystemError

def message : SystemError → String
  | stateOutOfRange state size =>
    s!"State {state} is out of range for a system with {size} states"
  | unnamedIndex index => s!"Proposition index {index} is not bound to any name"

end SystemError

inductive Fault where
  /-- A set of more states was asked for than can be held. -/
  | capacity
  /-- A lower bound is not inside its upper bound. -/
  | crossedBounds
  /-- A formula outside the core reached the evaluator. -/
  | notCore (f : Formula)
  /-- A probability outside `[0, 1]` was used. -/
  | improbable
  /-- The parts that were put together are no system. -/
  | unsound (error : SystemError)
  /-- A sum does not fit in a machine word. -/
  | sumOverflow
  /-- A deadline lies beyond the end of the clock. -/
  | deadlineOverflow
  /-- An expression has a literal of an unknown kind in it. -/
  | unrecognizedLiteral (literal : String)
  /-- A type of functions in an expression has more parameters than there is room for. -/
  | crowdedParameters
deriving DecidableEq

namespace Fault

def message : Fault → String
  | capacity => "Hash table capacity overflow"
  | crossedBounds => "lower bound must be a subset of the upper bound"
  | notCore f => "Evaluator Error: formula " ++ f.render ++ " reached the evaluator unsimplified"
  | improbable => "called `Result::unwrap()` on an `Err` value: InvalidProbability"
  | unsound (.stateOutOfRange state size) =>
    s!"called `Result::unwrap()` on an `Err` value: StateOutOfRange({state}, {size})"
  | unsound (.unnamedIndex index) =>
    s!"called `Result::unwrap()` on an `Err` value: UnknownPropositionIndex({index})"
  | sumOverflow => "attempt to add with overflow"
  | deadlineOverflow => "overflow when adding duration to instant"
  | unrecognizedLiteral literal => s!"Unrecognized literal: `{literal}`"
  | crowdedParameters =>
    "Punctuated::push_value: cannot push value if Punctuated is missing trailing punctuation"

end Fault

end BranchingTime
