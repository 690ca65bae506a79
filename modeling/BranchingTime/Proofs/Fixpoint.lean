/-
What the two iterations of the checker end at. The shrinking one ends at a
region that supports its own states (`mem_greatest`), and no state is lost on
the way that a self-supporting property holds of (`mem_greatest_of_forall`). The
growing one ends at a region that has its base and every candidate it supports
(`mem_least`), and only states are added that share every property closed under
these two (`forall_mem_least`).

The two principles are stated for predicates and not for regions: the semantics
of formulas gives predicates, on states that need not be those of the system.

Neither takes more rounds than there are states to drop or to add, and one more to
find that nothing changes (`rounds_greatest_le`, `rounds_least_le`).
-/
import BranchingTime.Fixpoint

namespace BranchingTime.Rule

variable {rule : Rule} {base candidates start current : Region} {s : Nat}

theorem mem_keep : s ∈ rule.keep candidates current ↔
    s ∈ current ∧ s ∈ candidates ∧ rule.supports current s = true := by
  rw [keep, Region.mem_filter_iff, Std.ExtTreeSet.mem_inter_iff, and_assoc]

theorem mem_add : s ∈ rule.add base candidates current ↔
    s ∈ base ∨ s ∈ candidates ∧ rule.supports current s = true := by
  rw [add, Std.ExtTreeSet.mem_union_iff, Region.mem_filter_iff]

/-! ## The shrinking iteration -/

theorem greatest_subset (rule : Rule) (candidates start : Region) :
    (rule.greatest candidates start).region ⊆ start := by
  fun_induction greatest rule candidates start with
  | case1 start next lookups h => exact Region.subset_refl _
  | case2 start next lookups h ih =>
    exact Region.subset_trans ih (rule.keep_subset candidates start)

theorem keep_greatest (rule : Rule) (candidates start : Region) :
    rule.keep candidates (rule.greatest candidates start).region =
      (rule.greatest candidates start).region := by
  fun_induction greatest rule candidates start with
  | case1 start next lookups h => exact h
  | case2 start next lookups h ih => exact ih

/-- The states at which the shrinking iteration ends are candidates that they
themselves support. -/
theorem mem_greatest (h : s ∈ (rule.greatest candidates start).region) :
    s ∈ candidates ∧ rule.supports (rule.greatest candidates start).region s = true := by
  rw [← keep_greatest, mem_keep] at h
  exact h.2

/-- **Coinduction.** A property of candidates that every region with all its
states supports is never lost. -/
theorem mem_greatest_of_forall {P : Nat → Prop} (hstart : ∀ t, P t → t ∈ start)
    (hcandidates : ∀ t, P t → t ∈ candidates)
    (hsupports : ∀ region t, (∀ u, P u → u ∈ region) → P t → rule.supports region t = true)
    (hs : P s) : s ∈ (rule.greatest candidates start).region := by
  fun_induction greatest rule candidates start with
  | case1 start next lookups h => exact hstart s hs
  | case2 start next lookups h ih =>
    -- one round keeps the states of `P`: they support one another
    refine ih fun t ht => mem_keep.2 ⟨hstart t ht, hcandidates t ht, hsupports start t hstart ht⟩

/-- If it starts from all candidates, the shrinking iteration ends at those of them that the
end supports. -/
theorem mem_greatest_iff (hstart : candidates ⊆ start) :
    s ∈ (rule.greatest candidates start).region ↔
      s ∈ candidates ∧ rule.supports (rule.greatest candidates start).region s = true := by
  refine ⟨mem_greatest, fun h => ?_⟩
  have hall : ∀ t, t = s ∨ t ∈ (rule.greatest candidates start).region →
      t ∈ candidates ∧ rule.supports (rule.greatest candidates start).region t = true := by
    rintro t (rfl | ht)
    · exact h
    · exact mem_greatest ht
  -- the end together with `s` supports itself
  refine mem_greatest_of_forall (fun t ht => hstart t (hall t ht).1) (fun t ht => (hall t ht).1)
    (fun region t hregion ht => ?_) (.inl rfl)
  exact rule.mono (fun u hu => hregion u (.inr hu)) (hall t ht).2

/-! ## The growing iteration -/

theorem add_grow {h : current ⊆ rule.add base candidates current} :
    rule.add base candidates (rule.grow base candidates current h).region =
      (rule.grow base candidates current h).region := by
  fun_induction grow rule base candidates current h with
  | case1 current h next he => exact he
  | case2 current h next he ih => exact ih

theorem forall_mem_grow {P : Nat → Prop} {h : current ⊆ rule.add base candidates current}
    (hcurrent : ∀ t ∈ current, P t) (hbase : ∀ t ∈ base, P t)
    (hadd : ∀ region, (∀ t ∈ region, P t) →
      ∀ t ∈ candidates, rule.supports region t = true → P t) :
    ∀ t ∈ (rule.grow base candidates current h).region, P t := by
  fun_induction grow rule base candidates current h with
  | case1 current h next he => exact hcurrent
  | case2 current h next he ih =>
    refine ih fun t ht => ?_
    rcases mem_add.1 ht with ht | ⟨hc, hr⟩
    · exact hbase t ht
    · exact hadd current hcurrent t hc hr

theorem add_least (rule : Rule) (base candidates : Region) :
    rule.add base candidates (rule.least base candidates).region =
      (rule.least base candidates).region := add_grow

/-- The growing iteration ends at the base and the candidates that the end
supports. -/
theorem mem_least : s ∈ (rule.least base candidates).region ↔
    s ∈ base ∨ s ∈ candidates ∧ rule.supports (rule.least base candidates).region s = true := by
  rw [← mem_add, add_least]

/-- **Induction.** A property of the base that passes to the candidates which
any region of its states supports holds of all states that are added. -/
theorem forall_mem_least {P : Nat → Prop} (hbase : ∀ t ∈ base, P t)
    (hadd : ∀ region, (∀ t ∈ region, P t) →
      ∀ t ∈ candidates, rule.supports region t = true → P t) :
    ∀ t ∈ (rule.least base candidates).region, P t :=
  forall_mem_grow (by simp) hbase hadd

/-! ## Rounds -/

/-- Every round of the shrinking iteration but the last one drops a state. -/
theorem rounds_greatest_le (rule : Rule) (candidates start : Region) :
    (rule.greatest candidates start).rounds ≤ start.size + 1 := by
  fun_induction greatest rule candidates start with
  | case1 start next lookups h => simp
  | case2 start next lookups h ih =>
    have hlt : next.size < start.size :=
      Region.size_lt_of_subset (rule.keep_subset candidates start) h
    simp only [Iteration.after]
    omega

/-- Every round of the growing iteration but the last one adds a state. -/
theorem rounds_grow_le {h : current ⊆ rule.add base candidates current} :
    (rule.grow base candidates current h).rounds ≤
      (base ∪ candidates).size - current.size + 1 := by
  fun_induction grow rule base candidates current h with
  | case1 current h next he => simp
  | case2 current h next he ih =>
    have hlt : current.size < next.size := Region.size_lt_of_subset h fun heq => he heq.symm
    have hle : next.size ≤ (base ∪ candidates).size :=
      Region.size_le_of_subset (rule.add_subset base candidates current)
    simp only [Iteration.after]
    omega

theorem rounds_least_le (rule : Rule) (base candidates : Region) :
    (rule.least base candidates).rounds ≤ (base ∪ candidates).size + 1 :=
  rounds_grow_le

/-! ## Comparison of two iterations -/

/-- A rule that supports more, from more candidates, keeps more. -/
theorem greatest_subset_greatest {weak : Rule} {more : Region}
    (hrules : ∀ region t, rule.supports region t = true → weak.supports region t = true)
    (hmore : candidates ⊆ more) :
    (rule.greatest candidates start).region ⊆ (weak.greatest more start).region := by
  intro s hs
  refine mem_greatest_of_forall (greatest_subset rule candidates start)
    (fun t ht => hmore t (mem_greatest ht).1) (fun region t hregion ht => ?_) hs
  exact weak.mono hregion (hrules _ t (mem_greatest ht).2)

/-- A rule that supports more, from a larger base and more candidates, adds more. -/
theorem least_subset_least {weak : Rule} {wide more : Region}
    (hrules : ∀ region t, rule.supports region t = true → weak.supports region t = true)
    (hbase : base ⊆ wide) (hmore : candidates ⊆ more) :
    (rule.least base candidates).region ⊆ (weak.least wide more).region := by
  refine forall_mem_least (fun t ht => mem_least.2 (.inl (hbase t ht))) ?_
  intro region hregion t ht hr
  exact mem_least.2 (.inr ⟨hmore t ht, weak.mono hregion (hrules region t hr)⟩)

end BranchingTime.Rule
