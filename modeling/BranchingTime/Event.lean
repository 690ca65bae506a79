/-
The events that a computation reports while it goes, in the order in which they
happen: their levels and their texts.
-/
import BranchingTime.Duration
import BranchingTime.Formula.Basic

namespace BranchingTime

/-- How much an event matters. -/
inductive Level where
  | trace
  | debug
  | info
  | warn
  | error
deriving DecidableEq

inductive Event where
  /-- The bounds of a formula were in the store. -/
  | recalled (f : Formula)
  /-- The bounds of a formula were computed. -/
  | evaluated (f : Formula) (satisfied undecided : Nat)
  | unknownProposition (name : String)
  | greatestReached (rounds : Nat)
  | leastReached (rounds : Nat)
  /-- A batch is checked one formula after another. -/
  | checkingInOrder (count : Nat)
  | checking (name : String) (f : Formula)
  /-- A batch is checked by a pool of workers. -/
  | poolStarted (workers count : Nat)
  | finished (name : String)
  | failed (reason : String)
  | timedOut (limit : Duration) (done count : Nat)
  | validated (count : Nat)
  | loaded (states edges frontier : Nat)
  | removing (transitions labels : String)
  | parsed (count : Nat) (file : String)
  /-- A formula of a batch mentions a proposition that the system does not have. -/
  | unknownIn (formula name : String)

namespace Level

def label : Level → String
  | trace => "TRACE"
  | debug => "DEBUG"
  | info => "INFO"
  | warn => "WARN"
  | error => "ERROR"

end Level

namespace Event

def level : Event → Level
  | recalled _ | greatestReached _ | leastReached _ => .trace
  | evaluated _ _ _ | checking _ _ | finished _ | removing _ _ => .debug
  | checkingInOrder _ | poolStarted _ _ | validated _ | loaded _ _ _ | parsed _ _ => .info
  | unknownProposition _ | unknownIn _ _ => .warn
  | failed _ | timedOut _ _ _ => .error

def message : Event → String
  | recalled f => s!"cache hit for {f.render}"
  | evaluated f satisfied undecided =>
    s!"{f.render}: {satisfied} states satisfied, {undecided} undecided"
  | unknownProposition name => s!"Unknown atomic proposition: {name}"
  | greatestReached rounds => s!"greatest fixpoint reached after {rounds} iterations"
  | leastReached rounds => s!"least fixpoint reached after {rounds} iterations"
  | checkingInOrder count => s!"Validating {count} formulas sequentially"
  | checking name f => s!"Checking {name}: {f.render}"
  | poolStarted workers count => s!"Spawning {workers} threads to validate {count} formulas"
  | finished name => s!"Finished {name}"
  | failed reason => s!"Validation failed: {reason}"
  | timedOut limit done count =>
    s!"Validation timed out after {limit.render} with {done} of {count} formulas done"
  | validated count => s!"Validated {count} formulas"
  | loaded states edges frontier =>
    s!"Loaded system with {states} states, {edges} transitions and {frontier} partial states"
  | removing transitions labels => s!"Removing {transitions} and {labels}"
  | parsed count file => s!"Parsed {count} formulas from {file}"
  | unknownIn formula name => s!"Formula {formula} uses the unknown proposition {name}"

end Event

end BranchingTime
