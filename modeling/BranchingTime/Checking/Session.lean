/-
A session: a system together with the store that its checks share. The counter
of lookups also counts those made outside a check.
-/
import BranchingTime.Checking.Evaluate

namespace BranchingTime

structure Session where
  system : System
  store : Store := {}

namespace Session

/-- Execute a program on the store of the session. -/
def execute {α : Type} (session : Session) (program : Access α) : Except Fault α × Session :=
  let (outcome, store) := program.run session.store
  (outcome, { session with store })

def check (session : Session) (f : Formula) : Except Fault Bounds × Session :=
  session.execute (session.system.check f)

def report (session : Session) (e : Event) : Session :=
  { session with store := { session.store with log := session.store.log.push e } }

/-- The known successors of a state; this counts as a lookup. -/
def lookUp (session : Session) (state : Nat) : Option Region × Session :=
  (session.system.successors state,
    { session with store := { session.store with lookups := session.store.lookups + 1 } })

/-- The number of formulas whose bounds are recorded. -/
def recorded (session : Session) : Nat := session.store.bounds.size

def lookups (session : Session) : UInt64 := session.store.lookups

/-- Forget all results; the lookups made so far stay counted. -/
def forget (session : Session) : Session :=
  { session with store := { session.store with bounds := ∅, cores := ∅ } }

/-- A new session on the same system. -/
def restart (session : Session) : Session :=
  { session with store := { log := session.store.log } }

end Session

end BranchingTime
