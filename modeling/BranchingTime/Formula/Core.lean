/-
The core form of a formula. Nine constructors suffice: the constants, atoms,
negation, conjunction, and the operators `EX`, `AX`, `EG` and `E[· U ·]`.
`toCore` expresses the other seven by these, from the leaves up; `isCore` is the
test for formulas that use nothing else.
-/
import BranchingTime.Formula.Basic

namespace BranchingTime.Formula

/-- Whether a formula uses core constructors only. -/
def isCore : Formula → Bool
  | tt | ff | atom _ => true
  | neg f | ex f | ax f | eg f => f.isCore
  | conj f g | eu f g => f.isCore && g.isCore
  | disj _ _ | imp _ _ | iff _ _ | ag _ | ef _ | af _ | au _ _ => false

/-- Disjunction by negation and conjunction. -/
def coreDisj (f g : Formula) : Formula := neg (conj (neg f) (neg g))

/-- Implication by negation and conjunction: `!f || g`. -/
def coreImp (f g : Formula) : Formula := coreDisj (neg f) g

/-- The core form of a formula. On every path `g` is reached through `f` if no
path leaves `f` before `g`, and no path avoids `g` for ever. -/
def toCore : Formula → Formula
  | tt => tt
  | ff => ff
  | atom name => atom name
  | neg f => neg f.toCore
  | conj f g => conj f.toCore g.toCore
  | disj f g => coreDisj f.toCore g.toCore
  | imp f g => coreImp f.toCore g.toCore
  | iff f g => conj (coreImp f.toCore g.toCore) (coreImp g.toCore f.toCore)
  | ex f => ex f.toCore
  | ax f => ax f.toCore
  | eg f => eg f.toCore
  | ag f => neg (eu tt (neg f.toCore))
  | ef f => eu tt f.toCore
  | af f => neg (eg (neg f.toCore))
  | eu f g => eu f.toCore g.toCore
  | au f g =>
    conj (neg (eu (neg g.toCore) (conj (neg f.toCore) (neg g.toCore))))
      (neg (eg (neg g.toCore)))

theorem isCore_coreDisj (f g : Formula) : (coreDisj f g).isCore = (f.isCore && g.isCore) := rfl

theorem isCore_coreImp (f g : Formula) : (coreImp f g).isCore = (f.isCore && g.isCore) := rfl

/-- The core form is one. -/
@[simp]
theorem isCore_toCore (f : Formula) : f.toCore.isCore = true := by
  induction f with
  | tt | ff | atom _ => rfl
  | neg f ih | ex f ih | ax f ih | eg f ih | ag f ih | ef f ih | af f ih => exact ih
  | conj f g ihf ihg | eu f g ihf ihg => simp [toCore, isCore, ihf, ihg]
  | disj f g ihf ihg => simp [toCore, isCore_coreDisj, ihf, ihg]
  | imp f g ihf ihg => simp [toCore, isCore_coreImp, ihf, ihg]
  | iff f g ihf ihg => simp [toCore, isCore, isCore_coreImp, ihf, ihg]
  | au f g ihf ihg => simp [toCore, isCore, ihf, ihg]

/-- A formula that is in core form already stays as it is. -/
theorem toCore_eq_self {f : Formula} (h : f.isCore = true) : f.toCore = f := by
  induction f with
  | tt | ff | atom _ => rfl
  | neg f ih | ex f ih | ax f ih | eg f ih => rw [toCore, ih h]
  | conj f g ihf ihg | eu f g ihf ihg =>
    obtain ⟨hf, hg⟩ := Bool.and_eq_true_iff.1 h
    rw [toCore, ihf hf, ihg hg]
  | disj _ _ | imp _ _ | iff _ _ | ag _ | ef _ | af _ | au _ _ => cases h

end BranchingTime.Formula
