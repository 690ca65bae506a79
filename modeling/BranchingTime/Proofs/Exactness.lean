/-
Systems without a frontier. There the two bounds of a formula are the same set:
the rules for what is sure and for what may be differ on the frontier only
(`bounds_upper_subset`). The set is that of the states which satisfy the formula
in the system itself, taken as a Kripke structure.
-/
import BranchingTime.Proofs.Soundness

namespace BranchingTime.System

variable {sys : System} {f : Formula} {s : Nat}

theorem isExplored_iff : sys.isExplored = true ↔ ∀ s, s ∉ sys.frontier := by
  rw [isExplored, Std.ExtTreeSet.isEmpty_iff, Std.ExtTreeSet.eq_empty_iff_forall_not_mem]

theorem maybeGoesOn_surely (h : ∀ s, s ∉ sys.frontier) (region : Region) (t : Nat)
    (hm : sys.maybeGoesOn.supports region t = true) :
    sys.surelyGoesOn.supports region t = true := by
  rw [maybeGoesOn_iff] at hm
  rw [surelyGoesOn_iff]
  rcases hm with hinto | hnone | hopen
  · exact .inl hinto
  · exact .inr ⟨hnone, h t⟩
  · exact absurd hopen (h t)

theorem maybeEnters_surely (h : ∀ s, s ∉ sys.frontier) (region : Region) (t : Nat)
    (hm : sys.maybeEnters.supports region t = true) :
    sys.surelyEnters.supports region t = true :=
  surelyEnters_iff.2 ((maybeEnters_iff.1 hm).resolve_left (h t))

/-- Without a frontier nothing is left open. -/
theorem bounds_upper_subset (h : ∀ s, s ∉ sys.frontier) (f : Formula) :
    (sys.bounds f).upper ⊆ (sys.bounds f).lower := by
  induction f with
  | neg f ih =>
    intro s hs
    rw [mem_upper_neg] at hs
    exact mem_lower_neg.2 ⟨hs.1, fun hu => hs.2 (ih s hu)⟩
  | conj f g ihf ihg =>
    intro s hs
    rw [mem_upper_conj] at hs
    exact mem_lower_conj.2 ⟨ihf s hs.1, ihg s hs.2⟩
  | ex f ih =>
    by_cases hne : f = .tt
    · subst hne
      exact Region.subset_refl _
    · intro s hs
      obtain ⟨hlt, ⟨t, ht, hmem⟩ | hopen⟩ := (mem_upper_ex hne).1 hs
      · exact (mem_lower_ex hne).2 ⟨hlt, t, ht, ih t hmem⟩
      · exact absurd hopen (h s)
  | ax f ih =>
    intro s hs
    obtain ⟨hlt, hopen | hall⟩ := mem_upper_ax.1 hs
    · exact absurd hopen (h s)
    · exact mem_lower_ax.2 ⟨hlt, h s, fun t ht => ih t (hall t ht)⟩
  | eg f ih => exact Rule.greatest_subset_greatest (maybeGoesOn_surely h) ih
  | eu f g ihf ihg => exact Rule.least_subset_least (maybeEnters_surely h) ihg ihf
  | tt | ff | atom _ | disj _ _ | imp _ _ | iff _ _ | ag _ | ef _ | af _ | au _ _ =>
    exact Region.subset_refl _

theorem bounds_lower_eq_upper (hv : sys.Valid) (h : ∀ s, s ∉ sys.frontier) (f : Formula) :
    (sys.bounds f).lower = (sys.bounds f).upper :=
  Region.eq_of_subset (bounds_within hv f).ordered (bounds_upper_subset h f)

/-- The bounds of a core formula are the states that satisfy it. -/
theorem mem_bounds_iff_sat (hv : sys.Valid) (h : ∀ s, s ∉ sys.frontier)
    (hf : f.isCore = true) : s ∈ (sys.bounds f).lower ↔ s < sys.size ∧ sys.kripke.Sat f s := by
  have hencloses := bounds_enclose hv (kripke_completes h) hf
  constructor
  · intro hl
    have hs : s < sys.size := lt_of_mem_lower hv hl
    exact ⟨hs, hencloses.lower hs hl⟩
  · rintro ⟨hs, hsat⟩
    exact bounds_upper_subset h f s (hencloses.upper hs hsat)

/-- **A check of a fully explored system is exact.** Whatever was done on the
checker before, the two bounds are the states that satisfy the formula, unless
the check breaks off since the states do not fit into a set. -/
theorem check_explored_eq_sat {c : Checker} (hv : sys.Valid) (hx : sys.isExplored = true)
    (hc : c.Reached sys) (f : Formula) :
    (∃ b, ((c.session sys).check f).1 = .ok b ∧ b.lower = b.upper ∧
      ∀ s, s ∈ b.lower ↔ s < sys.size ∧ sys.kripke.Sat f s) ∨
    ((c.session sys).check f).1 = .error .capacity ∧ setLimit ≤ sys.size := by
  have h := isExplored_iff.1 hx
  rcases hc.check_okIfFits hv f with hok | hfault
  · refine .inl ⟨_, hok, bounds_lower_eq_upper hv h _, fun s => ?_⟩
    rw [← sys.kripke.sat_toCore f]
    exact mem_bounds_iff_sat hv h f.isCore_toCore
  · exact .inr hfault

theorem check_explored_eq_sat_chain :
    (chain 3).Valid ∧ (chain 3).isExplored = true ∧ Checker.Reached (chain 3) {} ∧
    ∃ b, ((({} : Checker).session (chain 3)).check (.au .tt (.atom "q"))).1 = .ok b ∧
      b.lower = b.upper ∧
      ∀ s, s ∈ b.lower ↔ s < (chain 3).size ∧ (chain 3).kripke.Sat (.au .tt (.atom "q")) s := by
  have hv : (chain 3).Valid := violation?_eq_none.1 (by decide +kernel)
  have hx : (chain 3).isExplored = true := by decide +kernel
  have hfits : ¬setLimit ≤ (chain 3).size := by decide +kernel
  refine ⟨hv, hx, .refl, ?_⟩
  exact (check_explored_eq_sat hv hx .refl (.au .tt (.atom "q"))).resolve_right
    fun hfault => hfits hfault.2

/-- A fully explored system that is too large gets no answer. -/
theorem vast_explored_unanswered :
    vast.Valid ∧ vast.size < 18446744073709551615 ∧ vast.isExplored = true ∧
    ¬∃ b, ((({} : Checker).session vast).check (.conj (.atom "p") .tt)).1 = .ok b := by
  refine ⟨vast_valid, by decide, isExplored_iff.2 not_mem_frontier_vast, ?_⟩
  rintro ⟨b, hb⟩
  rw [check_conj_true_eq_error .refl (by decide)] at hb
  cases hb

end BranchingTime.System
