/-
Files and folders, and what reading and removing a file can come to. A path is
followed from the working directory, or from the root, name by name; every place
on the way has to be a folder.
-/
import Std.Data.ExtTreeMap.Lemmas
import BranchingTime.Text.Split

namespace BranchingTime

inductive Entry where
  | file (content : ByteArray)
  | folder

/-- Files and folders, by the plain path that leads to them: it has no empty name
and no `.` in it, and `..` only at its start. -/
abbrev Directory := Std.ExtTreeMap String Entry

/-- Why a file cannot be read or removed. -/
inductive FileError where
  | notFound
  | isFolder
  | notInFolder
  /-- A name on the way, or the whole path, is too long. -/
  | nameTooLong
  /-- The path holds a character that ends names. -/
  | nameWithNul
  | notText
deriving DecidableEq

namespace FileError

def message : FileError → String
  | notFound => "No such file or directory (os error 2)"
  | isFolder => "Is a directory (os error 21)"
  | notInFolder => "Not a directory (os error 20)"
  | nameTooLong => "File name too long (os error 36)"
  | nameWithNul => "file name contained an unexpected NUL byte"
  | notText => "stream did not contain valid UTF-8"

end FileError

/-- A place, by the names that lead there from the working directory, or from the
root if the first name is empty. -/
abbrev Place := List String

namespace Place

/-- The plain path to a place. -/
def path (place : Place) : String := "/".intercalate place

/-- Whether a place is the working directory, one above it, or the root. These are
always there, and they are folders. -/
def isTop (place : Place) : Bool := place == [""] || place.all (· == "..")

/-- The place that a name in a path leads to. -/
def enter (place : Place) (name : String) : Place :=
  if name = "" ∨ name = "." then place
  else if name = ".." then
    match place.getLast? with
    | some "" => place
    | some ".." | none => place ++ [name]
    | some _ => place.dropLast
  else place ++ [name]

/-- Where a path starts, and the names in it. -/
def split (path : String) : Place × List String :=
  match (Text.splitWhere (· == '/') path.toList).map String.ofList with
  | "" :: names => ([""], names)
  | names => ([], names)

end Place

namespace Directory

/-- The longest name of a file or folder, in bytes. -/
def longestName : Nat := 255

/-- The longest path, in bytes. -/
def longestPath : Nat := 4095

/-- The plain path of the file that names lead to from a folder. -/
def follow (dir : Directory) (place : Place) : List String → Except FileError String
  | [] => .error .isFolder
  | name :: names =>
    let next := place.enter name
    if name.utf8ByteSize > longestName then .error .nameTooLong
    else if next.isTop then follow dir next names
    else
      match dir[next.path]? with
      | none => .error .notFound
      | some .folder => follow dir next names
      | some (.file _) => if names.isEmpty then .ok next.path else .error .notInFolder

/-- The plain path of the file that a path leads to. -/
def fileAt (dir : Directory) (path : String) : Except FileError String :=
  if path.toList.contains '\x00' then .error .nameWithNul
  else if path = "" then .error .notFound
  else if path.utf8ByteSize > longestPath then .error .nameTooLong
  else
    let (place, names) := Place.split path
    dir.follow place names

/-- The text of the file that a path leads to. -/
def read (dir : Directory) (path : String) : Except FileError String := do
  match dir[← dir.fileAt path]? with
  | some (.file content) =>
    match String.fromUTF8? content with
    | some text => return text
    | none => throw .notText
  | _ => throw .notFound

/-- The names in the working directory itself, in order. -/
def names (dir : Directory) : List String :=
  (dir.toList.map (·.1)).filter fun path => !path.contains '/' && path != ".."

/-- The directory without the file that a path leads to. -/
def remove (dir : Directory) (path : String) : Except FileError Directory := do
  return dir.erase (← dir.fileAt path)

end Directory

end BranchingTime
