/-
Loading a system from two files. The files may be removed once the system is
loaded, the transition file before the label file.
-/
import BranchingTime.Event
import BranchingTime.System.Reading

namespace BranchingTime.System

/-- The files of a system, and what to do with them. -/
structure Source where
  transitions : String
  labels : String
  format : TextFormat := {}
  /-- Whether the files are removed after loading. -/
  delete : Bool := false

/-- What loading leads to. -/
structure Loading where
  outcome : Except ReadError System
  directory : Directory
  log : List Event

namespace Source

/-- The text of a file. -/
def readFile (dir : Directory) (path : String) : Except ReadError String :=
  (dir.read path).mapError (.unreadable path)

/-- The system in the files. -/
def read (source : Source) (dir : Directory) : Except ReadError System := do
  let transitions ← readFile dir source.transitions
  let labels ← readFile dir source.labels
  readFrom source.format source.transitions transitions source.labels labels

/-- Remove both files, as far as possible. -/
def removeFiles (source : Source) (dir : Directory) : Except ReadError Unit × Directory :=
  match dir.remove source.transitions with
  | .error cause => (.error (.unreadable source.transitions cause), dir)
  | .ok dir =>
    match dir.remove source.labels with
    | .error cause => (.error (.unreadable source.labels cause), dir)
    | .ok dir => (.ok (), dir)

def load (source : Source) (dir : Directory) : Loading :=
  match source.read dir with
  | .error error => ⟨.error error, dir, []⟩
  | .ok sys =>
    let loaded := Event.loaded sys.size sys.edgeCount sys.frontier.size
    if source.delete then
      let (removed, dir) := source.removeFiles dir
      ⟨removed.map fun _ => sys, dir, [loaded, .removing source.transitions source.labels]⟩
    else ⟨.ok sys, dir, [loaded]⟩

end Source

end BranchingTime.System
