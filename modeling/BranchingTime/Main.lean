/-
The command line. The files that the arguments name are looked up first; what a run
then leads to depends on nothing else but the time it takes.
-/
import BranchingTime.CommandLine.Run

namespace BranchingTime.CommandLine

/-- The code of the error that a folder was read as a file. -/
def isFolderCode : UInt32 := 21

/-- What is at a path. -/
def entryAt? (path : String) : IO (Option Entry) := do
  try
    return some (.file (← IO.FS.readBinFile path))
  catch
    | .inappropriateType _ code _ =>
      return if code = isFolderCode then some .folder else none
    | _ => return none

/-- Look up what a path leads to, and the folders on the way. -/
def lookUp (dir : Directory) (path : String) : IO Directory := do
  let (start, names) := Place.split path
  let mut dir := dir
  let mut place := start
  for name in names do
    place := place.enter name
    if !place.isTop && !dir.contains place.path then
      match ← entryAt? place.path with
      | some entry => dir := dir.insert place.path entry
      | none => return dir
  return dir

/-- The paths that the arguments name. -/
def pathsOf (args : Arguments) : List String :=
  args.aliases.toList ++ [args.formulas, args.transitions, args.labels]

/-- How often in a second a run is asked whether it is done. -/
def ticks : Nat := 100

/-- Run with a limit of time. A run that is not done by then ends as one does that
gets no result in before its deadline. -/
def runWithin (args : Arguments) (dir : Directory) : IO Outcome := do
  let start := (← IO.monoMsNow) / 1000
  let task := Task.spawn fun _ => run args dir { start, gone := fun _ => 0 }
  if args.parallel then
    for _ in [0 : args.timeout * ticks] do
      if ← IO.hasFinished task then return task.get
      IO.sleep (1000 / ticks).toUInt32
    if !(← IO.hasFinished task) then
      let limit := Duration.ofSeconds args.timeout
      return run args dir { start, gone := fun _ => limit.nanoseconds + 1 }
  return task.get

/-- Whether an event is shown. -/
def isShown (args : Arguments) (event : Event) : Bool :=
  match event.level with
  | .error => true
  | .warn | .info | .debug => args.verbose
  | .trace => false

/-- Print a report, and give its exit code. -/
def finish (report : Report) : IO UInt32 := do
  IO.print report.output
  IO.eprint report.errors
  return report.exit.toUInt32

/-- Run with understood arguments. -/
def execute (args : Arguments) : IO UInt32 := do
  let dir ← (pathsOf args).foldlM lookUp ∅
  let outcome ← runWithin args dir
  for (path, _) in dir.toList do
    if !outcome.directory.contains path then IO.FS.removeFile path
  for event in outcome.log do
    if isShown args event then IO.eprintln s!"{event.level.label} {event.message}"
  finish outcome.report

end BranchingTime.CommandLine

def main (args : List String) : IO UInt32 :=
  match BranchingTime.CommandLine.parse? args with
  | none => BranchingTime.CommandLine.finish BranchingTime.CommandLine.usage
  | some args => BranchingTime.CommandLine.execute args
