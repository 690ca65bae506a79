/-
Renaming tables: every line that is not blank and does not start with `#` gives a
raw name and, after an equals sign, the name to use instead. Names that are not in
the table stay as they are.
-/
import BranchingTime.Text.Blank
import Std.Data.ExtTreeMap.Lemmas

namespace BranchingTime

open Text

/-- The names to use, by raw name. -/
abbrev Renaming := Std.ExtTreeMap String String

namespace Renaming

/-- The name to use for a raw name. -/
def apply (table : Renaming) (name : String) : String := table.getD name name

/-- What is wrong with a line of a table. -/
inductive Problem where
  /-- It does not give two names. -/
  | notAPair (content : String)
  /-- Its raw name was given before. -/
  | repeated (raw : String)
deriving DecidableEq

structure TableError where
  file : String
  line : Nat
  problem : Problem
deriving DecidableEq

namespace TableError

def message : TableError → String
  | ⟨file, line, .notAPair content⟩ => s!"{file}:{line}: expected `raw = pretty`, found `{content}`"
  | ⟨file, line, .repeated raw⟩ => s!"{file}:{line}: `{raw}` is translated twice"

end TableError

/-- The raw name and the name to use on a line. -/
def pair? (line : List Char) : Option (String × String) :=
  match cut? ['='] line with
  | none => none
  | some (raw, pretty) =>
    if (trim raw).isEmpty || (trim pretty).isEmpty then none
    else some (.ofList (trim raw), .ofList (trim pretty))

/-- Take in a line of a table. -/
def addLine (table : Renaming) (line : List Char) : Except Problem Renaming :=
  if isIgnored line then .ok table
  else
    match pair? line with
    | none => .error (.notAPair (.ofList line))
    | some (raw, pretty) =>
      if raw ∈ table then .error (.repeated raw) else .ok (table.insert raw pretty)

/-- Take in the lines of a table, from the line of the given number on. -/
def addLines (table : Renaming) (file : String) : Nat → List (List Char) →
    Except TableError Renaming
  | _, [] => .ok table
  | number, line :: rest =>
    match addLine table line with
    | .error problem => .error ⟨file, number, problem⟩
    | .ok table => addLines table file (number + 1) rest

/-- The table in a text; `file` is its name in messages. -/
def parse (file text : String) : Except TableError Renaming :=
  addLines ∅ file 1 (lines text.toList)

end Renaming

end BranchingTime
