/-
The two fixpoint iterations of the checker, each for a rule that says which
states a region supports. `greatest` starts from a region and drops the states
that are no candidates, or that the rule no longer supports; `least` starts from
nothing and adds the states that the rule supports by now, to a base. Both stop
at the first region that a round leaves as it is, and report how many rounds
that took and how often a state's successors were consulted.

Rules are monotone: a larger region supports at least as much. So a growing
iteration never takes back a state, and ends once all candidates are in.
-/
import BranchingTime.Region

namespace BranchingTime

/-- A monotone test of a state against a region. -/
structure Rule where
  supports : Region → Nat → Bool
  mono : ∀ {a b : Region} {s : Nat}, a ⊆ b → supports a s = true → supports b s = true

/-- The end of an iteration. -/
structure Iteration where
  region : Region
  /-- The rounds, the last of which changed nothing. -/
  rounds : Nat
  /-- How often the successors of a state were consulted. -/
  lookups : Nat

namespace Iteration

/-- The same end, one round earlier. -/
def after (lookups : Nat) (it : Iteration) : Iteration :=
  { it with rounds := it.rounds + 1, lookups := lookups + it.lookups }

end Iteration

namespace Rule

/-- The candidates in `current` that `current` supports. -/
def keep (rule : Rule) (candidates current : Region) : Region :=
  (current ∩ candidates).filter (rule.supports current)

/-- The base, and the candidates that `current` supports. -/
def add (rule : Rule) (base candidates current : Region) : Region :=
  base ∪ candidates.filter (rule.supports current)

theorem keep_subset (rule : Rule) (candidates current : Region) :
    rule.keep candidates current ⊆ current := by
  intro s h
  have h := (Region.mem_filter_iff.1 h).1
  simp only [Std.ExtTreeSet.mem_inter_iff] at h
  exact h.1

theorem add_subset (rule : Rule) (base candidates current : Region) :
    rule.add base candidates current ⊆ base ∪ candidates := by
  intro s h
  simp only [add, Std.ExtTreeSet.mem_union_iff, Region.mem_filter_iff] at h ⊢
  exact h.imp_right And.left

theorem add_mono (rule : Rule) {base candidates a b : Region} (h : a ⊆ b) :
    rule.add base candidates a ⊆ rule.add base candidates b := by
  intro s hs
  simp only [add, Std.ExtTreeSet.mem_union_iff, Region.mem_filter_iff] at hs ⊢
  exact hs.imp_right fun ⟨hc, hr⟩ => ⟨hc, rule.mono h hr⟩

/-- The greatest region inside `start` and `candidates` that supports its own
states, by dropping states round after round. -/
def greatest (rule : Rule) (candidates start : Region) : Iteration :=
  let next := rule.keep candidates start
  let lookups := (start ∩ candidates).size
  if next = start then ⟨start, 1, lookups⟩
  else (rule.greatest candidates next).after lookups
termination_by start.size
decreasing_by exact Region.size_lt_of_subset (rule.keep_subset candidates start) ‹_›

/-- The growing iteration from a region that the next round does not shrink. -/
def grow (rule : Rule) (base candidates current : Region)
    (h : current ⊆ rule.add base candidates current) : Iteration :=
  let next := rule.add base candidates current
  if next = current then ⟨current, 1, candidates.size⟩
  else (rule.grow base candidates next (rule.add_mono h)).after candidates.size
termination_by (base ∪ candidates).size - current.size
decreasing_by
  have hlt := Region.size_lt_of_subset h fun he => absurd he.symm ‹_›
  have hle := Region.size_le_of_subset (rule.add_subset base candidates current)
  omega

/-- The least region that has `base` and every candidate it supports, by adding
states to nothing round after round. -/
def least (rule : Rule) (base candidates : Region) : Iteration :=
  rule.grow base candidates ∅ fun s h => absurd h (by simp)

end Rule

end BranchingTime
