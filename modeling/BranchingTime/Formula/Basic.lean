/-
Formulas of computation tree logic over named propositions: the two constants,
the propositional connectives, and a temporal operator for every pair of a path
quantifier (some path, every path) and a modality (next, always, eventually,
until). Formulas are plain trees, compared and hashed by shape. In the text of a
formula, binary connectives stand in round brackets, the operands of an until in
square ones, and a proposition is written as its bare name.
-/
import Std.Data.ExtTreeSet.Lemmas

namespace BranchingTime

inductive Formula where
  /-- Holds everywhere. -/
  | tt
  /-- Holds nowhere. -/
  | ff
  /-- Holds where the proposition of this name does. -/
  | atom (name : String)
  | neg (f : Formula)
  | conj (f g : Formula)
  | disj (f g : Formula)
  | imp (f g : Formula)
  | iff (f g : Formula)
  /-- On some path, at the next state. -/
  | ex (f : Formula)
  /-- On every path, at the next state. -/
  | ax (f : Formula)
  /-- On some path, at every state. -/
  | eg (f : Formula)
  /-- On every path, at every state. -/
  | ag (f : Formula)
  /-- On some path, at some state. -/
  | ef (f : Formula)
  /-- On every path, at some state. -/
  | af (f : Formula)
  /-- On some path, `f` up to a state where `g` holds. -/
  | eu (f g : Formula)
  /-- On every path, `f` up to a state where `g` holds. -/
  | au (f g : Formula)
deriving DecidableEq, Hashable, Inhabited

namespace Formula

/-- The constant for a truth value. -/
def ofBool (b : Bool) : Formula := if b then .tt else .ff

/-- The names of the propositions that a formula mentions. -/
def atoms : Formula → Std.ExtTreeSet String
  | tt | ff => ∅
  | atom name => {name}
  | neg f | ex f | ax f | eg f | ag f | ef f | af f => f.atoms
  | conj f g | disj f g | imp f g | iff f g | eu f g | au f g => f.atoms ∪ g.atoms

/-- The text of a formula. -/
def render : Formula → String
  | tt => "true"
  | ff => "false"
  | atom name => name
  | neg f => "!" ++ f.render
  | conj f g => "(" ++ f.render ++ " && " ++ g.render ++ ")"
  | disj f g => "(" ++ f.render ++ " || " ++ g.render ++ ")"
  | imp f g => "(" ++ f.render ++ " -> " ++ g.render ++ ")"
  | iff f g => "(" ++ f.render ++ " <-> " ++ g.render ++ ")"
  | ex f => "EX " ++ f.render
  | ax f => "AX " ++ f.render
  | eg f => "EG " ++ f.render
  | ag f => "AG " ++ f.render
  | ef f => "EF " ++ f.render
  | af f => "AF " ++ f.render
  | eu f g => "E[" ++ f.render ++ " U " ++ g.render ++ "]"
  | au f g => "A[" ++ f.render ++ " U " ++ g.render ++ "]"

end Formula

end BranchingTime
