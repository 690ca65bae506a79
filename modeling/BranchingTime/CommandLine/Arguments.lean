/-
The arguments of the command line: three paths and a number of options. An option
has a long name, and some have a letter for short; letters can be put together.
The value of an option stands in the next argument, or in the same one after an
equals sign, or right after the letter. After `--` all arguments are paths.
-/
import BranchingTime.Text.Integer
import BranchingTime.Text.Split

namespace BranchingTime.CommandLine

open Text

structure Arguments where
  transitions : String
  labels : String
  formulas : String
  /-- Check the formulas by a pool of workers. -/
  parallel : Bool := false
  /-- Show the events while they happen. -/
  verbose : Bool := false
  /-- The time that the pool has, in seconds. -/
  timeout : Nat := 3600
  /-- The number of workers; by default, one for each processor. -/
  workers : Option Nat := none
  /-- The file with the names to use for propositions. -/
  aliases : Option String := none
  sink : Int := -2
  marker : String := "prop_"
  /-- Remove the transition and the label file after loading them. -/
  delete : Bool := false
deriving DecidableEq

/-- The options without a value. -/
inductive Flag where
  | parallel | verbose | delete
deriving DecidableEq

/-- The options with a value. -/
inductive Setting where
  | timeout | workers | aliases | sink | marker
deriving DecidableEq

/-- What an argument, or two, say. -/
inductive Item where
  | path (path : String)
  | flag (flag : Flag)
  | setting (setting : Setting) (value : String)
deriving DecidableEq

namespace Flag

def ofName? : String → Option Flag
  | "parallel" => some parallel
  | "verbose" => some verbose
  | "delete" => some delete
  | _ => none

def ofLetter? : Char → Option Flag
  | 'p' => some parallel
  | 'v' => some verbose
  | _ => none

end Flag

namespace Setting

def ofName? : String → Option Setting
  | "timeout" => some timeout
  | "num-threads" => some workers
  | "translation" => some aliases
  | "sink" => some sink
  | "prefix" => some marker
  | _ => none

def ofLetter? : Char → Option Setting
  | 't' => some timeout
  | 'j' => some workers
  | _ => none

/-- Whether an argument can be the value of an option before it. What starts with a
hyphen is an option itself, unless a negative number may be meant. -/
def admits (setting : Setting) (argument : List Char) : Bool :=
  match argument with
  | '-' :: _ :: _ => setting = sink
  | _ => true

end Setting

/-! ## Items -/

/-- What a bundle of letters says: its items, and the option that still needs a value. -/
def letters? : List Char → Option (List Item × Option Setting)
  | [] => some ([], none)
  | c :: cs =>
    match Flag.ofLetter? c, Setting.ofLetter? c with
    | some flag, _ => (letters? cs).map fun (items, open?) => (.flag flag :: items, open?)
    | none, some setting =>
      match cs with
      | [] => some ([], some setting)
      | '=' :: value => some ([.setting setting (.ofList value)], none)
      | value => some ([.setting setting (.ofList value)], none)
    | none, none => none

/-- What a long option says. -/
def long? (text : List Char) : Option (List Item × Option Setting) :=
  match cut? ['='] text with
  | some (name, value) =>
    (Setting.ofName? (.ofList name)).map fun setting =>
      ([.setting setting (.ofList value)], none)
  | none =>
    match Flag.ofName? (.ofList text), Setting.ofName? (.ofList text) with
    | some flag, _ => some ([.flag flag], none)
    | none, some setting => some ([], some setting)
    | none, none => none

/-- What an argument says. -/
def argument? : List Char → Option (List Item × Option Setting)
  | '-' :: '-' :: name => long? name
  | '-' :: c :: cs => letters? (c :: cs)
  | path => some ([.path (.ofList path)], none)

/-- What all arguments say. -/
def items? : List String → Option (List Item)
  | [] => some []
  | "--" :: paths => some (paths.map .path)
  | argument :: rest => do
    match ← argument? argument.toList with
    | (items, none) => return items ++ (← items? rest)
    | (items, some setting) =>
      match rest with
      | [] => none
      | value :: rest =>
        if setting.admits value.toList then
          return items ++ .setting setting value :: (← items? rest)
        else none

/-! ## Arguments -/

/-- Whether an option occurs only once. -/
def isSingle (items : List Item) : Item → Bool
  | .path _ => true
  | .flag flag => items.countP (fun | .flag f => f = flag | _ => false) = 1
  | .setting setting _ => items.countP (fun | .setting s _ => s = setting | _ => false) = 1

/-- Take in an option. -/
def Arguments.take (args : Arguments) : Item → Option Arguments
  | .path _ => some args
  | .flag .parallel => some { args with parallel := true }
  | .flag .verbose => some { args with verbose := true }
  | .flag .delete => some { args with delete := true }
  | .setting .timeout value =>
    (readNat value.toList).toOption.map fun timeout => { args with timeout }
  | .setting .workers value =>
    (readNat value.toList).toOption.map fun workers => { args with workers }
  | .setting .aliases value => if value = "" then none else some { args with aliases := value }
  | .setting .sink value => (readInt value.toList).toOption.map fun sink => { args with sink }
  | .setting .marker value => some { args with marker := value }

/-- The paths among the items. -/
def paths (items : List Item) : List String :=
  items.filterMap fun
    | .path path => some path
    | _ => none

/-- The arguments, unless there are not three paths, an option is unknown or occurs
twice, or a value does not fit. -/
def parse? (arguments : List String) : Option Arguments := do
  let items ← items? arguments
  if !items.all (isSingle items) then none
  match paths items with
  | [transitions, labels, formulas] =>
    if transitions = "" ∨ labels = "" ∨ formulas = "" then none
    else items.foldlM Arguments.take { transitions, labels, formulas }
  | _ => none

end BranchingTime.CommandLine
