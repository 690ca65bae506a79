/-
Regions: finite sets of states. A state is a natural number, so that a system
can number its states from zero. Two regions are equal exactly if they have the
same members, whatever the order in which these were put in. A region may be of
any size, but a set that is built for its states holds fewer than `setLimit`.
-/
import Std.Data.ExtTreeSet.Lemmas

namespace BranchingTime

/-- A finite set of states. -/
abbrev Region := Std.ExtTreeSet Nat

/-- From this number on, states do not fit into a set: its table has to hold a power
of two of slots of which seven eighths at most are in use, and `2 ^ 60` slots are too
many. -/
def setLimit : Nat := 7 * Nat.pow 2 56 + 1

example : setLimit = 504403158265495553 := rfl

namespace Region

/-- The states below `n`. -/
def upTo (n : Nat) : Region := .ofList (List.range n)

instance : HasSubset Region := ⟨fun a b => ∀ s ∈ a, s ∈ b⟩

/-- Whether all states of `a` are in `b`. -/
def isWithin (a b : Region) : Bool := a.toList.all (b.contains ·)

/-- Whether `a` and `b` have a state in common. -/
def meets (a b : Region) : Bool := a.toList.any (b.contains ·)

theorem subset_def {a b : Region} : a ⊆ b ↔ ∀ s ∈ a, s ∈ b := Iff.rfl

theorem isWithin_iff {a b : Region} : a.isWithin b = true ↔ a ⊆ b := by
  simp [isWithin, subset_def]

theorem meets_iff {a b : Region} : a.meets b = true ↔ ∃ s ∈ a, s ∈ b := by
  simp [meets]

@[simp]
theorem mem_upTo {n s : Nat} : s ∈ upTo n ↔ s < n := by
  simp [upTo]

theorem size_upTo (n : Nat) : (upTo n).size = n := by
  have hdistinct : (List.range n).Pairwise fun a b => ¬compare a b = .eq :=
    List.nodup_range.imp fun hne he => hne (Nat.compare_eq_eq.1 he)
  rw [upTo, Std.ExtTreeSet.size_ofList hdistinct, List.length_range]

/-- A state is kept by a filter if it is in the region and passes the test. -/
theorem mem_filter_iff {a : Region} {p : Nat → Bool} {s : Nat} :
    s ∈ a.filter p ↔ s ∈ a ∧ p s = true := by
  rw [← Std.ExtTreeSet.mem_toList, Std.ExtTreeSet.toList_filter, List.mem_filter,
    Std.ExtTreeSet.mem_toList]

theorem subset_refl (a : Region) : a ⊆ a := fun _ h => h

theorem subset_trans {a b c : Region} (hab : a ⊆ b) (hbc : b ⊆ c) : a ⊆ c :=
  fun s h => hbc s (hab s h)

/-- Two regions inside one another are the same. -/
theorem eq_of_subset {a b : Region} (hab : a ⊆ b) (hba : b ⊆ a) : a = b :=
  Std.ExtTreeSet.ext_mem fun s => ⟨hab s, hba s⟩

theorem size_le_of_subset {a b : Region} (h : a ⊆ b) : a.size ≤ b.size := by
  rw [← Std.ExtTreeSet.size_inter_eq_size_left h]
  exact Std.ExtTreeSet.size_inter_le_size_right

/-- A proper part of a region has fewer states. -/
theorem size_lt_of_subset {a b : Region} (h : a ⊆ b) (hne : a ≠ b) : a.size < b.size := by
  refine Nat.lt_of_le_of_ne (size_le_of_subset h) fun hs => hne (eq_of_subset h fun s hb => ?_)
  have hsum : (b \ a).size + (b ∩ a).size = b.size :=
    Std.ExtTreeSet.size_diff_add_size_inter_eq_size_left
  have hinter : (b ∩ a).size = a.size := Std.ExtTreeSet.size_inter_eq_size_right h
  have hempty : b \ a = ∅ := Std.ExtTreeSet.eq_empty_iff_size_eq_zero.2 (by omega)
  have hs' : s ∉ b \ a := by simp [hempty]
  simpa [hb] using hs'

instance (a b : Region) : Decidable (a ⊆ b) :=
  decidable_of_iff _ isWithin_iff

end Region

end BranchingTime
