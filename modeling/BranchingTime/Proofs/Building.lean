/-
What is known of a system, and what every step of building it adds to that. All
that a system knows of its transitions is which states have been looked at (the
keys of `edges`), which known edges there are (`Leads`) and what the frontier is;
of its propositions, which names have which indices, which indices are labelled
and with which states. Two systems that agree on this are the same (`eq_of_views`).
-/
import BranchingTime.System.Build
import BranchingTime.Proofs.Evaluation

namespace BranchingTime.System

variable {sys sys' : System} {source target state index i s t : Nat}

/-! ## Views -/

theorem leads_iff_mem_getD : sys.Leads s t ↔ t ∈ sys.edges.getD s ∅ := by
  rw [Leads, successors, Std.ExtTreeMap.getD_eq_getD_getElem?]
  cases sys.edges[s]? with
  | none => simp
  | some targets => simp

/-- A state with a known successor has been looked at. -/
theorem Leads.mem_edges (h : sys.Leads s t) : s ∈ sys.edges := by
  obtain ⟨targets, hs, -⟩ := h
  exact Std.ExtTreeMap.mem_iff_isSome_getElem?.2 (by rw [← successors, hs]; rfl)

theorem mem_labelled_iff :
    s ∈ sys.labelled i ↔ ∃ states, sys.labels[i]? = some states ∧ s ∈ states := by
  rw [labelled, Std.ExtTreeMap.getD_eq_getD_getElem?]
  cases sys.labels[i]? with
  | none => simp
  | some states => simp

/-- Regions by key are the same if they have the same keys, and the same states for
every key. -/
theorem regions_ext {a b : Std.ExtTreeMap Nat Region} (hkeys : ∀ k, k ∈ a ↔ k ∈ b)
    (hstates : ∀ k s, s ∈ a.getD k ∅ ↔ s ∈ b.getD k ∅) : a = b := by
  refine Std.ExtTreeMap.ext_getElem? fun k => ?_
  have hsome := hkeys k
  have hregion : a.getD k ∅ = b.getD k ∅ := Std.ExtTreeSet.ext_mem (hstates k)
  rw [Std.ExtTreeMap.mem_iff_isSome_getElem?, Std.ExtTreeMap.mem_iff_isSome_getElem?] at hsome
  rw [Std.ExtTreeMap.getD_eq_getD_getElem?, Std.ExtTreeMap.getD_eq_getD_getElem?] at hregion
  cases ha : a[k]? <;> cases hb : b[k]? <;> simp_all

/-- **A system is what it knows.** -/
theorem eq_of_views (hsize : sys.size = sys'.size)
    (hedges : ∀ s, s ∈ sys.edges ↔ s ∈ sys'.edges) (hleads : ∀ s t, sys.Leads s t ↔ sys'.Leads s t)
    (hlabels : ∀ i, i ∈ sys.labels ↔ i ∈ sys'.labels)
    (hlabelled : ∀ i s, s ∈ sys.labelled i ↔ s ∈ sys'.labelled i)
    (hnames : ∀ name, sys.index? name = sys'.index? name)
    (hfrontier : ∀ s, s ∈ sys.frontier ↔ s ∈ sys'.frontier) : sys = sys' := by
  simp only [leads_iff_mem_getD] at hleads
  obtain ⟨size, edges, labels, names, frontier⟩ := sys
  obtain ⟨size', edges', labels', names', frontier'⟩ := sys'
  obtain rfl : size = size' := hsize
  obtain rfl : edges = edges' := regions_ext hedges hleads
  obtain rfl : labels = labels' := regions_ext hlabels hlabelled
  obtain rfl : names = names' := Std.ExtTreeMap.ext_getElem? hnames
  obtain rfl : frontier = frontier' := Std.ExtTreeSet.ext_mem hfrontier
  rfl

/-! ## Steps -/

theorem mem_edges_explore : s ∈ (sys.explore state).edges ↔ s = state ∨ s ∈ sys.edges := by
  simp [explore, Std.ExtTreeMap.mem_insertIfNew, @eq_comm _ s]

theorem leads_explore : (sys.explore state).Leads s t ↔ sys.Leads s t := by
  rw [leads_iff_mem_getD, leads_iff_mem_getD, explore, Std.ExtTreeMap.getD_insertIfNew]
  split
  next h =>
    obtain ⟨he, hnot⟩ := h
    obtain rfl := Std.LawfulEqCmp.eq_of_compare he
    rw [Std.ExtTreeMap.getD_eq_fallback hnot]
  next => rfl

theorem mem_edges_addEdge : s ∈ (sys.addEdge source target).edges ↔ s = source ∨ s ∈ sys.edges := by
  simp [addEdge, Std.ExtTreeMap.mem_insert, @eq_comm _ s]

theorem leads_addEdge :
    (sys.addEdge source target).Leads s t ↔ sys.Leads s t ∨ s = source ∧ t = target := by
  rw [leads_iff_mem_getD, leads_iff_mem_getD, addEdge, Std.ExtTreeMap.getD_insert]
  split
  next h =>
    obtain rfl := Std.LawfulEqCmp.eq_of_compare h
    simp [or_comm, @eq_comm _ t]
  next h =>
    have hne : s ≠ source := fun he => h (by simp [he])
    simp [hne]

theorem mem_frontier_addFrontier :
    s ∈ (sys.addFrontier state).frontier ↔ s = state ∨ s ∈ sys.frontier := by
  simp [addFrontier, Std.ExtTreeSet.mem_insert, @eq_comm _ s]

theorem mem_labels_addLabel :
    i ∈ (sys.addLabel index state).labels ↔ i = index ∨ i ∈ sys.labels := by
  simp [addLabel, Std.ExtTreeMap.mem_insert, @eq_comm _ i]

theorem mem_labelled_addLabel :
    s ∈ (sys.addLabel index state).labelled i ↔ s ∈ sys.labelled i ∨ i = index ∧ s = state := by
  rw [addLabel, labelled, Std.ExtTreeMap.getD_insert]
  split
  next h =>
    obtain rfl := Std.LawfulEqCmp.eq_of_compare h
    simp [or_comm, @eq_comm _ s]
  next h =>
    have hne : i ≠ index := fun he => h (by simp [he])
    simp [hne, labelled]

end BranchingTime.System
