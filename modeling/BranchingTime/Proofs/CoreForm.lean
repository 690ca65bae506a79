/-
The core form as a normal form. Three functions on formulas have to agree about which
operators are in the core: the rewriting itself, the test for core formulas, and the names
that a formula mentions, which no rewriting may lose or bring in although it repeats,
reorders and nests operands. A formula is its own core form exactly if it passes the test
(`toCore_eq_self_iff`), and rewriting never makes a constant or an atom out of anything
else, since it puts an operator in the place of an operator (`isLeaf_toCore`).
-/
import Mathlib.Tactic.Tauto
import BranchingTime.Formula.Core

namespace BranchingTime.Formula

variable {f leaf : Formula} {name : String}

/-! ## Formulas that stay as they are -/

/-- A formula with an operator outside the core is changed: its core form is core. -/
theorem toCore_eq_self_iff : f.toCore = f ↔ f.isCore = true := by
  constructor
  · intro h
    rw [← h]
    exact f.isCore_toCore
  · exact toCore_eq_self

/-- Rewriting once is enough. -/
theorem toCore_toCore (f : Formula) : f.toCore.toCore = f.toCore :=
  toCore_eq_self f.isCore_toCore

/-! ## Names -/

/-- The core form mentions the propositions of the formula. -/
theorem mem_atoms_toCore : name ∈ f.toCore.atoms ↔ name ∈ f.atoms := by
  induction f with
  | tt | ff | atom _ => rfl
  | neg f ih | ex f ih | ax f ih | eg f ih | af f ih => exact ih
  | ag f ih | ef f ih => simp [toCore, atoms, ih]
  | conj f g ihf ihg | disj f g ihf ihg | imp f g ihf ihg | eu f g ihf ihg =>
    simp [toCore, coreImp, coreDisj, atoms, ihf, ihg]
  | iff f g ihf ihg | au f g ihf ihg =>
    simp only [toCore, coreImp, coreDisj, atoms, Std.ExtTreeSet.mem_union_iff, ihf, ihg]
    tauto

theorem atoms_toCore (f : Formula) : f.toCore.atoms = f.atoms :=
  Std.ExtTreeSet.ext_mem fun _ => mem_atoms_toCore

/-! ## Constants and atoms -/

/-- Whether a formula is a constant or an atom. -/
def isLeaf : Formula → Bool
  | tt | ff | atom _ => true
  | neg _ | conj _ _ | disj _ _ | imp _ _ | iff _ _ | ex _ | ax _ | eg _ | ag _ | ef _ | af _
  | eu _ _ | au _ _ => false

theorem isLeaf_toCore (f : Formula) : f.toCore.isLeaf = f.isLeaf := by
  cases f <;> rfl

theorem toCore_of_isLeaf (h : f.isLeaf = true) : f.toCore = f := by
  cases f with
  | tt | ff | atom _ => rfl
  | _ => cases h

/-- A constant or an atom is the core form of itself alone. -/
theorem toCore_eq_leaf_iff (hleaf : leaf.isLeaf = true) : f.toCore = leaf ↔ f = leaf := by
  constructor
  · rintro rfl
    rw [isLeaf_toCore] at hleaf
    exact (toCore_of_isLeaf hleaf).symm
  · rintro rfl
    exact toCore_of_isLeaf hleaf

/-- Only `true` has the core form `true`. -/
theorem toCore_ne_tt (h : f ≠ .tt) : f.toCore ≠ .tt := mt (toCore_eq_leaf_iff rfl).1 h

/-- **The core form is a normal form.** It passes the test for core formulas; a formula is its
own core form exactly if it passes the test as well, and the core form of a core form is that
form. The propositions are those of the formula, and the core form is a constant or an atom
only if the formula is the same one. -/
theorem toCore_normalises (f : Formula) :
    f.toCore.isCore = true ∧ (f.toCore = f ↔ f.isCore = true) ∧ f.toCore.toCore = f.toCore ∧
    f.toCore.atoms = f.atoms ∧
    (f.toCore = .tt → f = .tt) ∧ (f.toCore = .ff → f = .ff) ∧
    ∀ name, f.toCore = .atom name → f = .atom name := by
  refine ⟨f.isCore_toCore, toCore_eq_self_iff, f.toCore_toCore, f.atoms_toCore, ?_, ?_, ?_⟩
  · exact (toCore_eq_leaf_iff rfl).1
  · exact (toCore_eq_leaf_iff rfl).1
  · exact fun name => (toCore_eq_leaf_iff rfl).1

end BranchingTime.Formula
