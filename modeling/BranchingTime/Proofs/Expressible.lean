/-
Which systems the text format can express. `Expressible` lists what a text cannot say:
that a state has no successors at all, that an edge leads to the state which marks
unknown targets, numbers beyond the signed ones, names with blanks in them, two names
with one index, and labels without states. Whatever is read is expressible
(`expressible_of_read`).
-/
import BranchingTime.Proofs.Reading

namespace BranchingTime.System

open Text

/-- The transitions and labels can be written with this sink. -/
structure Regular (sys : System) (sink : Int) : Prop where
  /-- A state with no known successors is in the frontier, if anybody has looked for them. -/
  deadEnd : ∀ s, sys.successors s = some ∅ → s ∈ sys.frontier
  target_ne_sink : ∀ s t, sys.Leads s t → (t : Int) ≠ sink
  source_le : ∀ s t, sys.Leads s t → s ≤ largestInt
  target_le : ∀ s t, sys.Leads s t → t ≤ largestInt
  frontier_le : ∀ s ∈ sys.frontier, s ≤ largestInt
  labelled_le : ∀ i, ∀ s ∈ sys.labelled i, s ≤ largestInt
  /-- No two names share an index. -/
  index_injective : ∀ name name' i, sys.index? name = some i → sys.index? name' = some i →
    name = name'
  labelled_ne_empty : ∀ i : Nat, sys.labels[i]? ≠ some ∅

/-- The system can be written with this sink and this marker. -/
structure Expressible (sys : System) (sink : Int) (marker : String) : Prop
    extends sys.Regular sink where
  name_ne_empty : ∀ name i, sys.index? name = some i → name ≠ ""
  name_no_blank : ∀ name i, sys.index? name = some i → ∀ c ∈ name.toList, isBlank c = false
  /-- The marker has no blank either, unless there is nothing to mark. -/
  marker_no_blank : ∀ name i, sys.index? name = some i → ∀ c ∈ marker.toList, isBlank c = false

variable {format : TextFormat} {sys sys' : System} {sink : Int} {marker name : String}
  {index source target s i k : Nat}

/-! ## Empty regions -/

theorem getElem?_eq_some_empty_iff {a : Std.ExtTreeMap Nat Region} :
    a[k]? = some ∅ ↔ k ∈ a ∧ ∀ s, s ∉ a.getD k ∅ := by
  rw [Std.ExtTreeMap.mem_iff_isSome_getElem?, Std.ExtTreeMap.getD_eq_getD_getElem?]
  cases a[k]? with
  | none => simp
  | some region => simp [Std.ExtTreeSet.eq_empty_iff_forall_not_mem]

theorem successors_eq_some_empty_iff :
    sys.successors s = some ∅ ↔ s ∈ sys.edges ∧ ∀ t, ¬sys.Leads s t := by
  simp only [successors, getElem?_eq_some_empty_iff, leads_iff_mem_getD]

theorem labels_eq_some_empty_iff :
    sys.labels[i]? = some ∅ ↔ i ∈ sys.labels ∧ ∀ s, s ∉ sys.labelled i :=
  getElem?_eq_some_empty_iff

/-! ## What is read is expressible -/

theorem index?_nameAs {name' : String} :
    (sys.nameAs name index).index? name' =
      if name = name' then some index else sys.index? name' := by
  simp [index?, nameAs, Std.ExtTreeMap.getElem?_insert]

theorem isNamed_nameAs_iff (hnew : name ∉ sys.names) :
    (sys.nameAs name index).isNamed i = true ↔ i = index ∨ sys.isNamed i = true := by
  have hfresh : sys.index? name = none := Std.ExtTreeMap.getElem?_eq_none hnew
  simp only [isNamed_iff, index?_nameAs]
  constructor
  · rintro ⟨name', h⟩
    split at h
    next => cases h; exact .inl rfl
    next => exact .inr ⟨name', h⟩
  · rintro (rfl | ⟨name', h⟩)
    · exact ⟨name, if_pos rfl⟩
    · refine ⟨name', ?_⟩
      rw [if_neg, h]
      rintro rfl
      rw [hfresh] at h
      cases h

theorem regular_unexplored (size : Nat) (sink : Int) : (unexplored size).Regular sink := by
  constructor
  all_goals simp [unexplored, leads_iff_mem_getD, successors, labelled, index?]

namespace Regular

theorem addFrontier (h : sys.Regular sink) (hs : s ≤ largestInt) :
    (sys.addFrontier s).Regular sink where
  deadEnd t ht := mem_frontier_addFrontier.2 (.inr (h.deadEnd t ht))
  target_ne_sink := h.target_ne_sink
  source_le := h.source_le
  target_le := h.target_le
  frontier_le t ht := by
    rcases mem_frontier_addFrontier.1 ht with rfl | ht
    · exact hs
    · exact h.frontier_le t ht
  labelled_le := h.labelled_le
  index_injective := h.index_injective
  labelled_ne_empty := h.labelled_ne_empty

theorem unknownEdge (h : sys.Regular sink) (hsource : source ≤ largestInt) :
    ((sys.explore source).addFrontier source).Regular sink where
  deadEnd s hs := by
    obtain ⟨hedges, hleads⟩ := successors_eq_some_empty_iff.1 hs
    rw [mem_frontier_addFrontier]
    rcases mem_edges_explore.1 hedges with rfl | hedges
    · exact .inl rfl
    · refine .inr (h.deadEnd s (successors_eq_some_empty_iff.2 ⟨hedges, fun t ht => ?_⟩))
      exact hleads t (leads_explore.2 ht)
  target_ne_sink s t ht := h.target_ne_sink s t (leads_explore.1 ht)
  source_le s t ht := h.source_le s t (leads_explore.1 ht)
  target_le s t ht := h.target_le s t (leads_explore.1 ht)
  frontier_le s hs := by
    rcases mem_frontier_addFrontier.1 hs with rfl | hs
    · exact hsource
    · exact h.frontier_le s hs
  labelled_le := h.labelled_le
  index_injective := h.index_injective
  labelled_ne_empty := h.labelled_ne_empty

theorem edge (h : sys.Regular sink) (hsource : source ≤ largestInt) (htarget : target ≤ largestInt)
    (hsink : (target : Int) ≠ sink) : (sys.addEdge source target).Regular sink where
  deadEnd s hs := by
    obtain ⟨hedges, hleads⟩ := successors_eq_some_empty_iff.1 hs
    rcases mem_edges_addEdge.1 hedges with rfl | hedges
    · exact absurd (leads_addEdge.2 (.inr ⟨rfl, rfl⟩)) (hleads target)
    · refine h.deadEnd s (successors_eq_some_empty_iff.2 ⟨hedges, fun t ht => ?_⟩)
      exact hleads t (leads_addEdge.2 (.inl ht))
  target_ne_sink s t ht := by
    rcases leads_addEdge.1 ht with ht | ⟨rfl, rfl⟩
    · exact h.target_ne_sink s t ht
    · exact hsink
  source_le s t ht := by
    rcases leads_addEdge.1 ht with ht | ⟨rfl, rfl⟩
    · exact h.source_le s t ht
    · exact hsource
  target_le s t ht := by
    rcases leads_addEdge.1 ht with ht | ⟨rfl, rfl⟩
    · exact h.target_le s t ht
    · exact htarget
  frontier_le := h.frontier_le
  labelled_le := h.labelled_le
  index_injective := h.index_injective
  labelled_ne_empty := h.labelled_ne_empty

theorem nameAs (h : sys.Regular sink) (hindex : sys.isNamed index = false) :
    (sys.nameAs name index).Regular sink where
  deadEnd := h.deadEnd
  target_ne_sink := h.target_ne_sink
  source_le := h.source_le
  target_le := h.target_le
  frontier_le := h.frontier_le
  labelled_le := h.labelled_le
  index_injective name₁ name₂ i h₁ h₂ := by
    have hfresh : ∀ name, sys.index? name ≠ some index := by
      intro name hname
      rw [isNamed_iff.2 ⟨name, hname⟩] at hindex
      cases hindex
    rw [index?_nameAs] at h₁ h₂
    split at h₁ <;> split at h₂
    · simp_all
    · cases h₁; exact absurd h₂ (hfresh _)
    · cases h₂; exact absurd h₁ (hfresh _)
    · exact h.index_injective name₁ name₂ i h₁ h₂
  labelled_ne_empty := h.labelled_ne_empty

theorem addLabel (h : sys.Regular sink) (hs : s ≤ largestInt) :
    (sys.addLabel index s).Regular sink where
  deadEnd := h.deadEnd
  target_ne_sink := h.target_ne_sink
  source_le := h.source_le
  target_le := h.target_le
  frontier_le := h.frontier_le
  labelled_le i t ht := by
    rcases mem_labelled_addLabel.1 ht with ht | ⟨rfl, rfl⟩
    · exact h.labelled_le i t ht
    · exact hs
  index_injective := h.index_injective
  labelled_ne_empty i hi := by
    obtain ⟨hlabels, hnone⟩ := labels_eq_some_empty_iff.1 hi
    rcases mem_labels_addLabel.1 hlabels with rfl | hlabels
    · exact hnone s (mem_labelled_addLabel.2 (.inr ⟨rfl, rfl⟩))
    · refine h.labelled_ne_empty i (labels_eq_some_empty_iff.2 ⟨hlabels, fun t ht => ?_⟩)
      exact hnone t (mem_labelled_addLabel.2 (.inl ht))

end Regular

theorem Take.regular (h : Take format sys sys') (hr : sys.Regular format.sink) :
    sys'.Regular format.sink := by
  cases h with
  | frontier hs => exact hr.addFrontier hs.2
  | unknownEdge hsource => exact hr.unknownEdge hsource.2
  | edge hsource htarget hsink => exact hr.edge hsource.2 htarget.2 hsink
  | name _ hindex _ => exact hr.nameAs hindex
  | label _ hs => exact hr.addLabel hs.2

theorem Takes.regular (h : Takes format sys sys') (hr : sys.Regular format.sink) :
    sys'.Regular format.sink := by
  induction h with
  | refl => exact hr
  | tail _ hstep ih => exact hstep.regular ih

/-- All names were declared in the text. -/
theorem Takes.declarable (h : Takes format sys sys')
    (hd : ∀ name i, sys.index? name = some i → Declarable format name) :
    ∀ name i, sys'.index? name = some i → Declarable format name := by
  induction h with
  | refl => exact hd
  | tail _ hstep ih =>
    cases hstep with
    | frontier | unknownEdge | edge | label => exact ih
    | name hname _ _ =>
      intro name i hi
      rw [index?_nameAs] at hi
      split at hi
      next heq => exact heq ▸ hname
      next => exact ih name i hi

/-- **Whatever is read is expressible**, if names are not replaced. -/
theorem expressible_of_read {transitions labels : String}
    (h : read ⟨sink, marker, ∅⟩ transitions labels = .ok sys) : sys.Expressible sink marker := by
  obtain ⟨size, htakes⟩ := exists_takes_of_read h
  have hraw : ∀ name i, sys.index? name = some i → name ≠ "" ∧
      ∀ c ∈ marker.toList ++ name.toList, isBlank c = false := by
    intro name i hi
    obtain ⟨raw, hne, hblank, hname⟩ :=
      htakes.declarable (by simp [index?, unexplored]) name i hi
    rw [Renaming.apply, Std.ExtTreeMap.getD_empty] at hname
    subst hname
    rw [String.toList_ofList]
    exact ⟨fun he => hne (by simpa using congrArg String.toList he), hblank⟩
  exact {
    toRegular := htakes.regular (regular_unexplored size sink)
    name_ne_empty name i hi := (hraw name i hi).1
    name_no_blank name i hi c hc := (hraw name i hi).2 c (List.mem_append_right _ hc)
    marker_no_blank name i hi c hc := (hraw name i hi).2 c (List.mem_append_left _ hc) }

end BranchingTime.System
