/-
A run of the command line: read the table of names and the formulas, load the
system, and check the formulas as a batch. Formulas are read before the system is
loaded, which may remove its files.
-/
import BranchingTime.Batch
import BranchingTime.CommandLine.Arguments
import BranchingTime.FormulaFile.Basic
import BranchingTime.System.Loading

namespace BranchingTime.CommandLine

/-- Why a run has no results. -/
inductive RunError where
  | noWorkers
  | noTimeout
  | unreadableTable (file : String) (cause : FileError)
  | malformedTable (error : Renaming.TableError)
  | unreadableFormulas (file : String) (cause : FileError)
  | malformedFormulas (error : FormulaFile.Error)
  | notLoaded (error : ReadError)
  | notChecked (error : BatchError)
deriving DecidableEq

namespace RunError

/-- What went wrong, each time followed by what caused it. -/
def causes : RunError → List String
  | noWorkers => ["Invalid configuration", "The number of threads must be at least 1"]
  | noTimeout => ["Invalid configuration", "The timeout must be at least one second"]
  | unreadableTable file cause =>
    ["Invalid configuration", s!"Cannot read the translation table {file}", cause.message]
  | malformedTable error => ["Invalid configuration", error.message]
  | unreadableFormulas file cause => [s!"Cannot read the formula file {file}", cause.message]
  | malformedFormulas error => ["Cannot parse the formula file", error.message]
  | notLoaded error => ["Cannot load the transition system", error.message] ++ error.cause?.toList
  | notChecked error => ["Validation failed", error.message]

def message (error : RunError) : String := "\n    caused by: ".intercalate error.causes

end RunError

/-- What a run leads to. -/
structure Outcome where
  result : Except Fault (Except RunError Results)
  directory : Directory
  log : Array Event

/-- The table of names that the arguments ask for. -/
def readAliases (args : Arguments) (dir : Directory) : Except RunError Renaming :=
  match args.aliases with
  | none => .ok ∅
  | some file => do
    let text ← (dir.read file).mapError (.unreadableTable file)
    (Renaming.parse file text).mapError .malformedTable

def readFormulas (args : Arguments) (dir : Directory) :
    Except RunError (List (String × Formula)) := do
  let text ← (dir.read args.formulas).mapError (.unreadableFormulas args.formulas)
  (FormulaFile.parse text).mapError .malformedFormulas

/-- Where the system is, and the formulas to check on it. -/
def prepare (args : Arguments) (dir : Directory) :
    Except RunError (System.Source × List (String × Formula)) := do
  if args.workers = some 0 then throw .noWorkers
  if args.timeout = 0 then throw .noTimeout
  let aliases ← readAliases args dir
  let formulas ← readFormulas args dir
  let format : TextFormat := { sink := args.sink, marker := args.marker, aliases }
  return ({ args with format }, formulas)

/-- The propositions that formulas mention and the system does not have. -/
def unknownPropositions (sys : System) (formulas : List (String × Formula)) : List Event :=
  formulas.flatMap fun (name, f) =>
    (f.atoms.toList.filter fun p => (sys.index? p).isNone).map (.unknownIn name)

/-- Check a batch as the arguments ask. -/
def checkBatch (args : Arguments) (clock : Batch.Clock) (batch : Batch) (session : Session) :
    Except Fault (Except BatchError Results) × Session :=
  if args.parallel then
    let limit := Duration.ofSeconds args.timeout
    batch.pooled { workers := args.workers.getD 1, limit, clock } session
  else
    let (results, session) := session.execute (batch.inOrder session.system)
    (results.map .ok, session)

/-- Check formulas on a system that has been loaded. -/
def checkFormulas (args : Arguments) (clock : Batch.Clock) (formulas : List (String × Formula))
    (session : Session) : Except Fault (Except RunError Results) × Session :=
  match Batch.ofJobs formulas with
  | .error error => (.ok (.error (.notChecked error)), session)
  | .ok batch =>
    let (results, session) := checkBatch args clock batch session
    (results.map (·.mapError .notChecked), session)

def run (args : Arguments) (dir : Directory) (clock : Batch.Clock) : Outcome :=
  match prepare args dir with
  | .error error => ⟨.ok (.error error), dir, #[]⟩
  | .ok (source, formulas) =>
    let loading := source.load dir
    let log := Event.parsed formulas.length args.formulas :: loading.log
    match loading.outcome with
    | .error error => ⟨.ok (.error (.notLoaded error)), loading.directory, log.toArray⟩
    | .ok system =>
      let log := (log ++ unknownPropositions system formulas).toArray
      let (result, session) := checkFormulas args clock formulas { system, store := { log } }
      ⟨result, loading.directory, session.store.log⟩

/-! ## As a process -/

/-- What a process prints, and the code with which it exits. -/
structure Report where
  exit : Nat
  output : String := ""
  errors : String := ""

/-- A region in square brackets. -/
def renderRegion (region : Region) : String :=
  "[" ++ ", ".intercalate (region.toList.map toString) ++ "]"

/-- The line of a result. -/
def renderResult (name : String) (b : Bounds) : String :=
  s!"{name}: lower = {renderRegion b.lower}, upper = {renderRegion b.upper}\n"

def Outcome.report (outcome : Outcome) : Report :=
  match outcome.result with
  | .error fault => { exit := 101, errors := fault.message ++ "\n" }
  | .ok (.error error) => { exit := 1, errors := s!"Error: {error.message}\n" }
  | .ok (.ok results) =>
    { exit := 0, output := String.join (results.toList.map fun (name, b) => renderResult name b) }

/-- The report on arguments that are not understood. -/
def usage : Report :=
  { exit := 2
    errors :=
      "error: the arguments are not understood\n\n" ++
      "Usage: [OPTIONS] <TRANSITIONS> <LABELS> <FORMULAS>\n" }

end BranchingTime.CommandLine
