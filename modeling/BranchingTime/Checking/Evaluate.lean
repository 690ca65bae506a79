/-
Evaluation of formulas over a system. `check` brings a formula into core form
and evaluates that; both the core form and the bounds of every core formula met
on the way are recorded in the store, and read from there the next time.

The evaluation breaks off if a set that it builds does not fit. Lookups are counted
at the end of the walk or the loop that makes them, so those of one that breaks off
are left out.
-/
import BranchingTime.Checking.Access
import BranchingTime.Checking.Operators
import BranchingTime.Formula.Core

namespace BranchingTime

namespace Access

/-- The recorded bounds of a formula, or else those that `compute` ends with,
which are recorded then. -/
def reuse (f : Formula) (compute : Access Bounds) : Access Bounds :=
  .fetch f fun
    | some b => .report (.recalled f) (.done b)
    | none => do
      let b ← compute
      .report (.evaluated f b.lower.size (b.upper.size - b.lower.size))
        (.record f b (.done b))

/-- The value of a computation that makes this many lookups. -/
def counted {α : Type} (lookups : Nat) (x : Except Fault α) : Access α := do
  let value ← .ofExcept x
  .count lookups (.done value)

end Access

/-- The least fixpoint of a rule. Each round builds a set. As these only grow, all of
them fit if the last one does. -/
def Rule.leastFixpoint (rule : Rule) (base candidates : Region) : Access Region := do
  let it := rule.least base candidates
  let region ← .ofExcept it.region.held
  .count it.lookups (.report (.leastReached it.rounds) (.done region))

namespace System

/-- Bounds of an atom: the states labelled with it, none for an unknown name. -/
def evaluateAtom (sys : System) (name : String) : Access Bounds :=
  match sys.index? name with
  | some index => .done (.exact (sys.labelled index))
  | none => .report (.unknownProposition name) (.done (.exact ∅))

/-- The greatest fixpoint of a rule. It starts with a set of all states, of which the
rounds build parts. -/
def greatestFixpoint (sys : System) (rule : Rule) (candidates : Region) : Access Region := do
  let start ← .ofExcept sys.everyState
  let it := rule.greatest candidates start
  .count it.lookups (.report (.greatestReached it.rounds) (.done it.region))

/-- Bounds of `EG f`: states from which a path inside the bound of `f` goes on
for ever or ends in a dead end. -/
def evaluateAlways (sys : System) (b : Bounds) : Access Bounds := do
  let lower ← sys.greatestFixpoint sys.surelyGoesOn b.lower
  let upper ← sys.greatestFixpoint sys.maybeGoesOn b.upper
  .ofExcept (Bounds.between lower upper)

/-- Bounds of `E[f U g]`: states from which a path inside the bound of `f` leads
to the bound of `g`. -/
def evaluateUntil (sys : System) (b c : Bounds) : Access Bounds := do
  let lower ← sys.surelyEnters.leastFixpoint c.lower b.lower
  let upper ← sys.maybeEnters.leastFixpoint c.upper b.upper
  .ofExcept (Bounds.between lower upper)

/-- Bounds of a core formula. -/
def evaluate (sys : System) (f : Formula) : Access Bounds :=
  .reuse f <| match f with
    | .tt => do return .exact (← .ofExcept sys.everyState)
    | .ff => .done (.exact ∅)
    | .atom name => sys.evaluateAtom name
    | .neg g => do
      let b ← sys.evaluate g
      .ofExcept (sys.negation b)
    | .conj g h => do
      let b ← sys.evaluate g
      let c ← sys.evaluate h
      .ofExcept (Bounds.between (b.lower ∩ c.lower) (b.upper ∩ c.upper))
    | .ex .tt => .counted sys.size sys.someNext
    | .ex g => do
      let b ← sys.evaluate g
      .counted sys.size (sys.existsNext b)
    | .ax g => do
      let b ← sys.evaluate g
      .counted sys.size (sys.forallNext b)
    | .eg g => do
      let b ← sys.evaluate g
      sys.evaluateAlways b
    | .eu g h => do
      let b ← sys.evaluate g
      let c ← sys.evaluate h
      sys.evaluateUntil b c
    | .disj _ _ | .imp _ _ | .iff _ _ | .ag _ | .ef _ | .af _ | .au _ _ => .fail (.notCore f)

/-- The core form of a formula, from the store if it was needed before. -/
def coreForm (f : Formula) : Access Formula :=
  .fetchCore f fun
    | some core => .done core
    | none => .recordCore f f.toCore (.done f.toCore)

/-- Bounds of any formula. -/
def check (sys : System) (f : Formula) : Access Bounds := do
  sys.evaluate (← coreForm f)

end System

end BranchingTime
