/-
Reading makes valid systems. What is read does not go through the check of a system,
and does not have to: each piece of text that is taken in is in range, and names are
declared before they are used, so that the system stays valid with every step
(`Take.valid`). The check would let it through unchanged.
-/
import BranchingTime.Proofs.Expressible

namespace BranchingTime.System

variable {format : TextFormat} {sys sys' : System} {name : String} {index source target s : Nat}

/-! ## Validity by what is known -/

theorem valid_iff : sys.Valid ↔
    (∀ s ∈ sys.edges, s < sys.size) ∧ (∀ s t, sys.Leads s t → t < sys.size) ∧
    (∀ i ∈ sys.labels, sys.isNamed i = true) ∧ (∀ i, ∀ s ∈ sys.labelled i, s < sys.size) ∧
    ∀ s ∈ sys.frontier, s < sys.size := by
  simp only [Std.ExtTreeMap.mem_iff_isSome_getElem?, Option.isSome_iff_exists, Leads, isNamed_iff,
    mem_labelled_iff]
  constructor
  · intro hv
    refine ⟨?_, ?_, ?_, ?_, fun s => hv.frontier⟩
    · rintro s ⟨targets, hs⟩
      exact hv.sources hs
    · rintro s t ⟨targets, hs, ht⟩
      exact hv.targets hs ht
    · rintro i ⟨states, hi⟩
      exact hv.named hi
    · rintro i s ⟨states, hi, hs⟩
      exact hv.labelled hi hs
  · rintro ⟨hsources, htargets, hnamed, hlabelled, hfrontier⟩
    exact ⟨fun hs => hsources _ ⟨_, hs⟩, fun hs ht => htargets _ _ ⟨_, hs, ht⟩,
      fun hi => hnamed _ ⟨_, hi⟩, fun hi hs => hlabelled _ _ ⟨_, hi, hs⟩, hfrontier _⟩

/-! ## What is read is valid -/

theorem valid_unexplored (size : Nat) : (unexplored size).Valid := by
  rw [valid_iff]
  simp [unexplored, leads_iff_mem_getD, labelled]

namespace Valid

theorem addFrontier (hv : sys.Valid) (hs : s < sys.size) : (sys.addFrontier s).Valid := by
  obtain ⟨hsources, htargets, hnamed, hlabelled, hfrontier⟩ := valid_iff.1 hv
  refine valid_iff.2 ⟨hsources, htargets, hnamed, hlabelled, fun t ht => ?_⟩
  rcases mem_frontier_addFrontier.1 ht with rfl | ht
  · exact hs
  · exact hfrontier t ht

theorem explore (hv : sys.Valid) (hs : s < sys.size) : (sys.explore s).Valid := by
  obtain ⟨hsources, htargets, hnamed, hlabelled, hfrontier⟩ := valid_iff.1 hv
  refine valid_iff.2 ⟨fun t ht => ?_, fun t u ht => htargets t u (leads_explore.1 ht), hnamed,
    hlabelled, hfrontier⟩
  rcases mem_edges_explore.1 ht with rfl | ht
  · exact hs
  · exact hsources t ht

theorem addEdge (hv : sys.Valid) (hsource : source < sys.size) (htarget : target < sys.size) :
    (sys.addEdge source target).Valid := by
  obtain ⟨hsources, htargets, hnamed, hlabelled, hfrontier⟩ := valid_iff.1 hv
  refine valid_iff.2 ⟨fun s hs => ?_, fun s t ht => ?_, hnamed, hlabelled, hfrontier⟩
  · rcases mem_edges_addEdge.1 hs with rfl | hs
    · exact hsource
    · exact hsources s hs
  · rcases leads_addEdge.1 ht with ht | ⟨-, rfl⟩
    · exact htargets s t ht
    · exact htarget

/-- A new name does not take the place of another one, so all indices keep theirs. -/
theorem nameAs (hv : sys.Valid) (hnew : name ∉ sys.names) : (sys.nameAs name index).Valid := by
  obtain ⟨hsources, htargets, hnamed, hlabelled, hfrontier⟩ := valid_iff.1 hv
  refine valid_iff.2 ⟨hsources, htargets, fun i hi => ?_, hlabelled, hfrontier⟩
  exact (isNamed_nameAs_iff hnew).2 (.inr (hnamed i hi))

theorem addLabel (hv : sys.Valid) (hindex : sys.isNamed index = true) (hs : s < sys.size) :
    (sys.addLabel index s).Valid := by
  obtain ⟨hsources, htargets, hnamed, hlabelled, hfrontier⟩ := valid_iff.1 hv
  refine valid_iff.2 ⟨hsources, htargets, fun i hi => ?_, fun i t ht => ?_, hfrontier⟩
  · rcases mem_labels_addLabel.1 hi with rfl | hi
    · exact hindex
    · exact hnamed i hi
  · rcases mem_labelled_addLabel.1 ht with ht | ⟨-, rfl⟩
    · exact hlabelled i t ht
    · exact hs

end Valid

theorem Take.valid (h : Take format sys sys') (hv : sys.Valid) : sys'.Valid := by
  cases h with
  | frontier hs => exact hv.addFrontier hs.1
  | unknownEdge hsource => exact (hv.explore hsource.1).addFrontier hsource.1
  | edge hsource htarget _ => exact hv.addEdge hsource.1 htarget.1
  | name _ _ hnew => exact hv.nameAs hnew
  | label hindex hs => exact hv.addLabel hindex hs.1

theorem Takes.valid (h : Takes format sys sys') (hv : sys.Valid) : sys'.Valid := by
  induction h with
  | refl => exact hv
  | tail _ hstep ih => exact hstep.valid ih

/-- **The check lets everything through that is read**, as it is, whatever the sink, the
marker and the names to use. Moreover the indices belong to one name each and label some
state, no edge leads to the sink, and a state without known successors is in the frontier. -/
theorem read_checked_eq_self {transitions labels : String}
    (h : read format transitions labels = .ok sys) :
    sys.checked = .ok sys ∧ sys.Valid ∧
    (∀ name name' i, sys.index? name = some i → sys.index? name' = some i → name = name') ∧
    (∀ i : Nat, sys.labels[i]? ≠ some ∅) ∧
    (∀ s t, sys.Leads s t → (t : Int) ≠ format.sink) ∧
    ∀ s, sys.successors s = some ∅ → s ∈ sys.frontier := by
  obtain ⟨size, htakes⟩ := exists_takes_of_read h
  have hv : sys.Valid := htakes.valid (valid_unexplored size)
  have hr : sys.Regular format.sink := htakes.regular (regular_unexplored size format.sink)
  exact ⟨checked_eq_ok.2 ⟨rfl, hv⟩, hv, hr.index_injective, hr.labelled_ne_empty,
    hr.target_ne_sink, hr.deadEnd⟩

/-- Here the sink is a state, and the one edge of state 1 leads there. -/
theorem read_checked_eq_self_small : ∃ sys,
    read ⟨2, "p_", .ofList [("a", "b")]⟩ "1 -> 2\n0 -> 1\n2 -> 0\n\n3\n"
      "7=p_a\n1: 7 7\n" = .ok sys ∧
    sys.checked = .ok sys ∧ sys.successors 1 = some ∅ ∧ 1 ∈ sys.frontier := by
  have hread : ∃ sys, (read ⟨2, "p_", .ofList [("a", "b")]⟩ "1 -> 2\n0 -> 1\n2 -> 0\n\n3\n"
      "7=p_a\n1: 7 7\n").toOption = some sys ∧ decide (sys.successors 1 = some ∅) = true :=
    (Option.any_eq_true _ _).1 (by decide +kernel)
  obtain ⟨sys, hsys, hempty⟩ := hread
  have h := read_checked_eq_self (toOption_eq_some_iff.1 hsys)
  have hempty' := of_decide_eq_true hempty
  exact ⟨sys, toOption_eq_some_iff.1 hsys, h.1, hempty', h.2.2.2.2.2 1 hempty'⟩

end BranchingTime.System
