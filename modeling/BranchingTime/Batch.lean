/-
Batches of named formulas that are checked on one system and share its store.
Names are distinct, and results come in the order of the names. A batch is
checked in order, or by a pool of workers that has to be done before a deadline:
there the first evaluation that breaks off ends the batch, and what is finished
by then is dropped.
-/
import BranchingTime.Checking.Session
import BranchingTime.System.Reading
import Std.Data.ExtTreeMap.Lemmas

namespace BranchingTime

/-- The bounds of the formulas of a batch, by name. -/
abbrev Results := Std.ExtTreeMap String Bounds

structure Batch where
  jobs : List (String × Formula)
  /-- No two formulas have the same name. -/
  distinct : (jobs.map (·.1)).Nodup

inductive BatchError where
  /-- Two formulas have this name. -/
  | repeatedName (name : String)
  /-- The deadline passed. -/
  | timedOut (limit : Duration)
  /-- An evaluation broke off. -/
  | brokenOff (name : String) (fault : Fault)
  /-- All workers are gone, and this formula has no result. -/
  | deserted (name : String)
deriving DecidableEq

namespace BatchError

def message : BatchError → String
  | repeatedName name => s!"Formula name is not unique: {name}"
  | timedOut limit => s!"Validation did not finish within {limit.render}"
  | brokenOff name fault => s!"Evaluation of formula {name} failed: {fault.message}"
  | deserted name =>
    s!"Evaluation of formula {name} failed: all workers terminated before the formula was evaluated"

end BatchError

/-- Why there are no results: a system cannot be read, its parts do not fit, or a batch
has none. -/
inductive Error where
  | format (error : ReadError)
  | system (error : SystemError)
  | batch (error : BatchError)
deriving DecidableEq

namespace Error

def message : Error → String
  | format error => "Format Error: " ++ error.message
  | system error => error.message
  | batch error => error.message

end Error

namespace Batch

/-! ## Distinct names -/

/-- The first name that is also among those before it, or among `seen`. -/
def firstRepeated? (seen : List String) : List String → Option String
  | [] => none
  | name :: rest => if name ∈ seen then some name else firstRepeated? (name :: seen) rest

theorem firstRepeated?_eq_none {seen names : List String} :
    firstRepeated? seen names = none ↔ names.Nodup ∧ ∀ name ∈ names, name ∉ seen := by
  induction names generalizing seen with
  | nil => simp [firstRepeated?]
  | cons name rest ih =>
    by_cases h : name ∈ seen
    · simp [firstRepeated?, h]
    · simp only [firstRepeated?, h, if_false, ih, List.mem_cons, List.nodup_cons, not_or,
        forall_eq_or_imp, not_false_eq_true, true_and]
      constructor
      · rintro ⟨hnodup, hrest⟩
        exact ⟨⟨fun hm => (hrest name hm).1 rfl, hnodup⟩, fun n hn => (hrest n hn).2⟩
      · rintro ⟨⟨hname, hnodup⟩, hrest⟩
        exact ⟨hnodup, fun n hn => ⟨fun he => hname (he ▸ hn), hrest n hn⟩⟩

/-- The batch of these formulas, if their names are distinct. -/
def ofJobs (jobs : List (String × Formula)) : Except BatchError Batch :=
  match h : firstRepeated? [] (jobs.map (·.1)) with
  | none => .ok ⟨jobs, (firstRepeated?_eq_none.1 h).1⟩
  | some name => .error (.repeatedName name)

/-! ## In order -/

/-- Check formulas one after another. -/
def checkJobs (sys : System) (results : Results) : List (String × Formula) → Access Results
  | [] => .done results
  | (name, f) :: rest => .report (.checking name f) do
    let b ← sys.check f
    checkJobs sys (results.insert name b) rest

/-- Check the formulas of a batch in their order. -/
def inOrder (batch : Batch) (sys : System) : Access Results :=
  .report (.checkingInOrder batch.jobs.length) (checkJobs sys ∅ batch.jobs)

/-! ## By a pool of workers -/

/-- What a batch sees of the time. -/
structure Clock where
  /-- The second that the clock shows when the batch starts. -/
  start : Nat
  /-- The time that has gone, in nanoseconds, when the next result can come in and
  the given number of results came in before. -/
  gone : Nat → Nat

structure PoolSettings where
  /-- The number of workers that are asked for. -/
  workers : Nat := 1
  limit : Duration
  clock : Clock

/-- The last second that the clock can show. -/
def endOfClock : Nat := 9223372036854775807

/-- Collect results until all are in, the deadline passes or one is a fault. -/
def collect (settings : PoolSettings) (count : Nat) (results : Results) :
    List (String × Formula) → Session → Except BatchError Results × Session
  | [], session => (.ok results, session.report (.validated count))
  | (name, f) :: rest, session =>
    if settings.limit.nanoseconds < settings.clock.gone results.size then
      (.error (.timedOut settings.limit),
        session.report (.timedOut settings.limit results.size count))
    else
      match session.check f with
      | (.ok b, session) =>
        collect settings count (results.insert name b) rest (session.report (.finished name))
      | (.error fault, session) =>
        let error := BatchError.brokenOff name fault
        (.error error, session.report (.failed error.message))

/-- Check the formulas of a batch by a pool of workers. The outcome does not depend
on who checks what, so the formulas are taken one by one. -/
def pooled (batch : Batch) (settings : PoolSettings) (session : Session) :
    Except Fault (Except BatchError Results) × Session :=
  let count := batch.jobs.length
  if settings.clock.start + settings.limit.nanoseconds / 1000000000 > endOfClock then
    (.error .deadlineOverflow, session)
  else if batch.jobs.isEmpty then (.ok (.ok ∅), session)
  else
    let workers := min (max settings.workers 1) count
    let (outcome, session) :=
      collect settings count ∅ batch.jobs (session.report (.poolStarted workers count))
    (.ok outcome, session)

end Batch

end BranchingTime
