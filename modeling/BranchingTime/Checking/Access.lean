/-
Computations on the shared store of a checker, as programs of atomic accesses.
A program reads or writes one entry of the store, reports an event or counts
lookups at a time, and ends with a value or a fault. Between two accesses other
programs may access the same store, so that the meaning of checking with many
workers is the meaning of interleaved programs; `run` executes one program with
the store to itself.

The store survives a fault: what was recorded before it stays recorded.
-/
import BranchingTime.Bounds
import BranchingTime.Event
import Std.Data.HashMap.Lemmas

namespace BranchingTime

/-- What the checks of one system share. -/
structure Store where
  /-- The bounds of the core formulas that were evaluated. -/
  bounds : Std.HashMap Formula Bounds := ∅
  /-- The core forms of the formulas that were checked. -/
  cores : Std.HashMap Formula Formula := ∅
  /-- How often the successors of a state were looked up, counted in a machine word. -/
  lookups : UInt64 := 0
  /-- The events so far. -/
  log : Array Event := #[]

inductive Access (α : Type) where
  | done (value : α)
  | fail (fault : Fault)
  /-- Read the bounds of a formula. -/
  | fetch (f : Formula) (next : Option Bounds → Access α)
  /-- Write the bounds of a formula. -/
  | record (f : Formula) (b : Bounds) (next : Access α)
  /-- Read the core form of a formula. -/
  | fetchCore (f : Formula) (next : Option Formula → Access α)
  /-- Write the core form of a formula. -/
  | recordCore (f core : Formula) (next : Access α)
  /-- Count successor lookups. -/
  | count (lookups : Nat) (next : Access α)
  /-- Report an event. -/
  | report (e : Event) (next : Access α)

namespace Access

variable {α β : Type}

/-- One program after another; the second depends on the value of the first. -/
def andThen : Access α → (α → Access β) → Access β
  | done value, k => k value
  | fail fault, _ => fail fault
  | fetch f next, k => fetch f fun b => (next b).andThen k
  | record f b next, k => record f b (next.andThen k)
  | fetchCore f next, k => fetchCore f fun core => (next core).andThen k
  | recordCore f core next, k => recordCore f core (next.andThen k)
  | count lookups next, k => count lookups (next.andThen k)
  | report e next, k => report e (next.andThen k)

instance : Monad Access where
  pure := done
  bind := andThen

/-- The program that ends at once, as a computation without a store did. -/
def ofExcept : Except Fault α → Access α
  | .ok value => done value
  | .error fault => fail fault

/-- Execute a program with the store to itself. -/
def run : Access α → Store → Except Fault α × Store
  | done value, store => (.ok value, store)
  | fail fault, store => (.error fault, store)
  | fetch f next, store => (next store.bounds[f]?).run store
  | record f b next, store => next.run { store with bounds := store.bounds.insert f b }
  | fetchCore f next, store => (next store.cores[f]?).run store
  | recordCore f core next, store => next.run { store with cores := store.cores.insert f core }
  | count lookups next, store => next.run { store with lookups := store.lookups + .ofNat lookups }
  | report e next, store => next.run { store with log := store.log.push e }

theorem bind_eq (p : Access α) (k : α → Access β) : p >>= k = p.andThen k := rfl

/-- To execute two programs in a row is to execute the second on the store and
the value that the first leaves behind. -/
theorem run_bind (p : Access α) (k : α → Access β) (store : Store) :
    (p >>= k).run store =
      match p.run store with
      | (.ok value, store) => (k value).run store
      | (.error fault, store) => (.error fault, store) := by
  rw [bind_eq]
  induction p generalizing store <;> simp_all [andThen, run]

end Access

end BranchingTime
