/-
What a list of build steps says. Steps come in any order and number, and each of them
changes several parts of the system at once; what is known in the end can be read off
the list all the same (`ToldBy`). Only the indices of names depend on the order: names
are counted in the order in which the steps first speak of them (`namesOf`).

A system that is told by its steps is settled by them (`ToldBy.eq`). The check at the
end finds a state out of range exactly if a step speaks of one; an index without a name
cannot arise, because a step that labels a state declares the name as well.
-/
import BranchingTime.Proofs.Validity

namespace BranchingTime

namespace BuildStep

variable {steps steps' : List BuildStep} {step : BuildStep} {name : String} {s : Nat}

/-- The states that a step speaks of. -/
def states : BuildStep → List Nat
  | edge source target => [source, target]
  | unknownEdge state | deadEnd state | frontier state | label _ state => [state]
  | proposition _ => []

/-- The name that a step speaks of. -/
def name? : BuildStep → Option String
  | label name _ | proposition name => some name
  | edge _ _ | unknownEdge _ | deadEnd _ | frontier _ => none

/-- All names that steps speak of, each where it comes first. -/
def namesOf (steps : List BuildStep) : List String := (steps.filterMap name?).eraseDups

/-- Further steps do not change the place of a name. -/
theorem namesOf_append (steps more : List BuildStep) :
    ∃ later, namesOf (steps ++ more) = namesOf steps ++ later := by
  rw [namesOf, List.filterMap_append, List.eraseDups_append]
  exact ⟨_, rfl⟩

theorem namesOf_concat_of_none (h : step.name? = none) : namesOf (steps ++ [step]) = namesOf steps := by
  simp [namesOf, h]

theorem namesOf_concat_of_some (h : step.name? = some name) :
    namesOf (steps ++ [step]) =
      if name ∈ namesOf steps then namesOf steps else namesOf steps ++ [name] := by
  rw [namesOf, List.filterMap_append, List.filterMap_cons_some h, List.filterMap_nil,
    List.eraseDups_append]
  by_cases hname : name ∈ namesOf steps
  · have hnone : [name].removeAll (steps.filterMap name?) = [] :=
      List.filter_eq_nil_iff.2 (by simpa [namesOf] using hname)
    rw [if_pos hname, hnone, List.eraseDups_nil, List.append_nil, namesOf]
  · have hone : [name].removeAll (steps.filterMap name?) = [name] :=
      List.filter_eq_self.2 (by simpa [namesOf] using hname)
    rw [if_neg hname, hone, List.eraseDups_cons]
    rfl

end BuildStep

namespace System

open BuildStep (namesOf)

variable {sys sys' : System} {size k i s t : Nat} {steps steps' : List BuildStep}
  {last : BuildStep} {name other : String} {error : SystemError}

/-! ## Numbering of names -/

theorem index?_declare : (sys.declare name).index? other =
    if other = name then some (sys.indexFor name) else sys.index? other := by
  rw [declare, index?, Std.ExtTreeMap.getElem?_insertIfNew]
  by_cases hother : other = name
  · subst hother
    rw [if_pos rfl, indexFor, index?]
    cases h : sys.names[other]? with
    | none =>
      have hnew : other ∉ sys.names := by simpa using h
      simp [hnew]
    | some k =>
      have hold : other ∈ sys.names := by
        rw [Std.ExtTreeMap.mem_iff_isSome_getElem?, h]
        rfl
      simp [hold]
  · rw [if_neg hother, if_neg fun h => hother (Std.LawfulEqCmp.eq_of_compare h.1).symm]
    rfl

/-- The indices count the listed names up from zero. -/
structure Numbers (sys : System) (listed : List String) : Prop where
  size_eq : sys.names.size = listed.length
  index?_iff : ∀ name k, sys.index? name = some k ↔ listed[k]? = some name

namespace Numbers

variable {listed : List String}

theorem mem_iff (h : sys.Numbers listed) : name ∈ sys.names ↔ name ∈ listed := by
  rw [Std.ExtTreeMap.mem_iff_isSome_getElem?, Option.isSome_iff_exists, List.mem_iff_getElem?]
  exact exists_congr fun k => h.index?_iff name k

/-- An index belongs to one name. -/
theorem eq_of_index? (h : sys.Numbers listed) (hname : sys.index? name = some k)
    (hother : sys.index? other = some k) : name = other := by
  rw [h.index?_iff] at hname hother
  exact Option.some.inj (hname.symm.trans hother)

/-- A name that has an index has the one of its place in the list. -/
theorem getElem?_indexFor (h : sys.Numbers listed) (hname : name ∈ listed) :
    listed[sys.indexFor name]? = some name := by
  obtain ⟨k, hk⟩ := List.mem_iff_getElem?.1 hname
  rw [indexFor, (h.index?_iff name k).2 hk]
  exact hk

theorem indexFor_of_not_mem (h : sys.Numbers listed) (hname : name ∉ listed) :
    sys.indexFor name = listed.length := by
  have hnew : sys.index? name = none := Std.ExtTreeMap.getElem?_eq_none (mt h.mem_iff.1 hname)
  rw [indexFor, hnew, Option.getD_none, h.size_eq]

/-- A known name changes nothing. -/
theorem declare_of_mem (h : sys.Numbers listed) (hname : name ∈ listed) :
    (sys.declare name).Numbers listed := by
  refine ⟨?_, fun other k => ?_⟩
  · rw [declare, Std.ExtTreeMap.size_insertIfNew, if_pos (h.mem_iff.2 hname), h.size_eq]
  · rw [index?_declare, ← h.index?_iff other k]
    split
    next heq =>
      subst heq
      rw [(h.index?_iff other _).2 (h.getElem?_indexFor hname)]
    next => rfl

/-- A new name gets the next index. -/
theorem declare_of_not_mem (h : sys.Numbers listed) (hname : name ∉ listed) :
    (sys.declare name).Numbers (listed ++ [name]) := by
  refine ⟨?_, fun other k => ?_⟩
  · rw [declare, Std.ExtTreeMap.size_insertIfNew, if_neg (mt h.mem_iff.1 hname), h.size_eq]
    simp
  · rw [index?_declare, h.indexFor_of_not_mem hname]
    split
    next heq =>
      subst heq
      simp only [List.getElem?_append, List.getElem?_singleton, Option.some.injEq]
      have hplace : listed[k]? ≠ some other := fun hk => hname (List.mem_of_getElem? hk)
      split
      next hlt => simpa [hplace] using Nat.ne_of_gt hlt
      next hle => grind
    next hne =>
      rw [h.index?_iff, List.getElem?_append]
      split
      next => rfl
      next hle => grind

theorem declare (h : sys.Numbers (namesOf steps)) (hlast : last.name? = some name) :
    (sys.declare name).Numbers (namesOf (steps ++ [last])) := by
  rw [BuildStep.namesOf_concat_of_some hlast]
  split
  next hname => exact h.declare_of_mem hname
  next hname => exact h.declare_of_not_mem hname

end Numbers

/-! ## What a step adds -/

theorem mem_edges_step : s ∈ (sys.step last).edges ↔
    s ∈ sys.edges ∨ (∃ t, last = .edge s t) ∨ last = .unknownEdge s ∨ last = .deadEnd s := by
  cases last with
  | edge source target =>
    rw [System.step, mem_edges_addEdge]
    simp [or_comm, eq_comm]
  | unknownEdge state | deadEnd state =>
    simp only [System.step, addFrontier, mem_edges_explore]
    simp [or_comm, eq_comm]
  | frontier _ | label _ _ | proposition _ => simp [System.step, addFrontier, addLabel, declare]

theorem leads_step : (sys.step last).Leads s t ↔ sys.Leads s t ∨ last = .edge s t := by
  cases last with
  | edge source target =>
    rw [System.step, leads_addEdge]
    simp [eq_comm]
  | unknownEdge state | deadEnd state =>
    have h : (sys.explore state).Leads s t ↔ sys.Leads s t := leads_explore
    exact h.trans (by simp)
  | frontier _ | label _ _ | proposition _ =>
    simp [System.step, addFrontier, addLabel, declare, Leads, successors]

theorem mem_frontier_step : s ∈ (sys.step last).frontier ↔
    s ∈ sys.frontier ∨ last = .unknownEdge s ∨ last = .frontier s := by
  cases last with
  | unknownEdge state | frontier state =>
    rw [System.step, mem_frontier_addFrontier]
    simp [explore, or_comm, eq_comm]
  | edge _ _ | deadEnd _ | label _ _ | proposition _ =>
    simp [System.step, addEdge, explore, addLabel, declare]

theorem Numbers.step (h : sys.Numbers (namesOf steps)) :
    (sys.step last).Numbers (namesOf (steps ++ [last])) := by
  cases last with
  | label name state =>
    have hnew : (sys.declare name).Numbers (namesOf (steps ++ [.label name state])) := h.declare rfl
    exact ⟨hnew.size_eq, hnew.index?_iff⟩
  | proposition name => exact h.declare rfl
  | edge _ _ | unknownEdge _ | deadEnd _ | frontier _ =>
    rw [BuildStep.namesOf_concat_of_none rfl]
    exact ⟨h.size_eq, h.index?_iff⟩

theorem index?_step : (sys.step last).index? name =
    if last.name? = some name then some (sys.indexFor name) else sys.index? name := by
  cases last with
  | label new _ | proposition new =>
    have h : (sys.declare new).index? name =
        if name = new then some (sys.indexFor new) else sys.index? name := index?_declare
    refine h.trans ?_
    by_cases heq : name = new
    · simp [heq, BuildStep.name?]
    · simp [heq, Ne.symm heq, BuildStep.name?]
  | edge _ _ | unknownEdge _ | deadEnd _ | frontier _ => rfl

/-- Names keep their indices. -/
theorem index?_step_of_some (h : sys.index? name = some k) :
    (sys.step last).index? name = some k := by
  rw [index?_step]
  split
  next => rw [indexFor, h, Option.getD_some]
  next => exact h

theorem index?_step_of_name? (h : last.name? = some name) :
    (sys.step last).index? name = some (sys.indexFor name) := by
  rw [index?_step, if_pos h]

theorem mem_labels_step : i ∈ (sys.step last).labels ↔
    i ∈ sys.labels ∨ ∃ name s, last = .label name s ∧ sys.indexFor name = i := by
  cases last with
  | label name state =>
    rw [System.step, mem_labels_addLabel]
    simp [declare, or_comm, eq_comm]
  | edge _ _ | unknownEdge _ | deadEnd _ | frontier _ | proposition _ =>
    simp [System.step, addEdge, addFrontier, explore, declare]

theorem mem_labelled_step : s ∈ (sys.step last).labelled i ↔
    s ∈ sys.labelled i ∨ ∃ name, last = .label name s ∧ sys.indexFor name = i := by
  cases last with
  | label name state =>
    have h : s ∈ (sys.declare name).labelled i ↔ s ∈ sys.labelled i := Iff.rfl
    rw [System.step, mem_labelled_addLabel, h]
    grind
  | edge _ _ | unknownEdge _ | deadEnd _ | frontier _ | proposition _ =>
    simp [System.step, addEdge, addFrontier, explore, declare, labelled]

/-! ## What steps say -/

theorem mem_bearing_iff :
    s ∈ sys.bearing name ↔ ∃ i, sys.index? name = some i ∧ s ∈ sys.labelled i := by
  unfold bearing
  cases sys.index? name with
  | none => simp
  | some i => simp

theorem mem_labels_of_mem_labelled (h : s ∈ sys.labelled i) : i ∈ sys.labels := by
  obtain ⟨states, hstates, -⟩ := mem_labelled_iff.1 h
  exact Std.ExtTreeMap.mem_iff_isSome_getElem?.2 (by rw [hstates]; rfl)

/-- The steps say all that is known of the system, and nothing else. -/
structure ToldBy (sys : System) (size : Nat) (steps : List BuildStep) : Prop where
  size_eq : sys.size = size
  /-- Successors are known of the states that steps have edges from, perhaps unknown
  ones, or have looked at. -/
  mem_edges : ∀ s, s ∈ sys.edges ↔
    (∃ t, .edge s t ∈ steps) ∨ .unknownEdge s ∈ steps ∨ .deadEnd s ∈ steps
  leads : ∀ s t, sys.Leads s t ↔ .edge s t ∈ steps
  mem_frontier : ∀ s, s ∈ sys.frontier ↔ .unknownEdge s ∈ steps ∨ .frontier s ∈ steps
  /-- Indices are the places of names in the order of their first mention. -/
  numbers : sys.Numbers (namesOf steps)
  mem_bearing : ∀ name s, s ∈ sys.bearing name ↔ .label name s ∈ steps
  mem_labels : ∀ i, i ∈ sys.labels ↔ ∃ name s, .label name s ∈ steps ∧ sys.index? name = some i

theorem toldBy_unexplored (size : Nat) : (unexplored size).ToldBy size [] := by
  have hnumbers : (unexplored size).Numbers (namesOf []) :=
    ⟨rfl, by simp [unexplored, index?, namesOf]⟩
  refine ⟨rfl, ?_, ?_, ?_, hnumbers, ?_, ?_⟩ <;>
    simp [unexplored, leads_iff_mem_getD, mem_bearing_iff, index?]

namespace ToldBy

/-- A name that labels a state has an index. -/
theorem exists_index? (h : sys.ToldBy size steps) (hlabel : .label name s ∈ steps) :
    ∃ k, sys.index? name = some k := by
  obtain ⟨k, hk, -⟩ := mem_bearing_iff.1 ((h.mem_bearing name s).2 hlabel)
  exact ⟨k, hk⟩

/-- A step puts a name on a state without touching the states of other names, since no
index that bears states is given to a new name. -/
theorem mem_bearing_step (h : sys.ToldBy size steps) :
    s ∈ (sys.step last).bearing name ↔ s ∈ sys.bearing name ∨ last = .label name s := by
  have hnumbers : (sys.step last).Numbers (namesOf (steps ++ [last])) := h.numbers.step
  simp only [mem_bearing_iff, mem_labelled_step]
  constructor
  · rintro ⟨i, hi, hs | ⟨other, rfl, hother⟩⟩
    · obtain ⟨other, -, -, hother⟩ := (h.mem_labels i).1 (mem_labels_of_mem_labelled hs)
      obtain rfl := hnumbers.eq_of_index? hi (index?_step_of_some hother)
      exact .inl ⟨i, hother, hs⟩
    · have hindex : (sys.step (.label other s)).index? other = some i :=
        (index?_step_of_name? rfl).trans (congrArg some hother)
      rw [hnumbers.eq_of_index? hi hindex]
      exact .inr rfl
  · rintro (⟨i, hi, hs⟩ | rfl)
    · exact ⟨i, index?_step_of_some hi, .inl hs⟩
    · exact ⟨sys.indexFor name, index?_step_of_name? rfl, .inr ⟨name, rfl, rfl⟩⟩

theorem step (h : sys.ToldBy size steps) (last : BuildStep) :
    (sys.step last).ToldBy size (steps ++ [last]) := by
  refine ⟨?_, fun s => ?_, fun s t => ?_, fun s => ?_, h.numbers.step, fun name s => ?_,
    fun i => ?_⟩
  · rw [← h.size_eq]
    cases last <;> rfl
  · simp only [mem_edges_step, h.mem_edges, List.mem_append, List.mem_singleton, eq_comm]
    grind
  · rw [leads_step, h.leads, List.mem_append, List.mem_singleton, eq_comm]
  · simp only [mem_frontier_step, h.mem_frontier, List.mem_append, List.mem_singleton, eq_comm]
    grind
  · rw [h.mem_bearing_step, h.mem_bearing, List.mem_append, List.mem_singleton, eq_comm]
  · rw [mem_labels_step, h.mem_labels]
    constructor
    · rintro (⟨name, s, hlabel, hi⟩ | ⟨name, s, rfl, hi⟩)
      · exact ⟨name, s, List.mem_append_left _ hlabel, index?_step_of_some hi⟩
      · exact ⟨name, s, by simp, (index?_step_of_name? rfl).trans (congrArg some hi)⟩
    · rintro ⟨name, s, hlabel, hi⟩
      rcases List.mem_append.1 hlabel with hold | hnew
      · obtain ⟨k, hk⟩ := h.exists_index? hold
        obtain rfl : k = i := Option.some.inj ((index?_step_of_some hk).symm.trans hi)
        exact .inl ⟨name, s, hold, hk⟩
      · obtain rfl := List.mem_singleton.1 hnew
        exact .inr ⟨name, s, rfl, Option.some.inj ((index?_step_of_name? rfl).symm.trans hi)⟩

theorem foldl (h : sys.ToldBy size steps) (more : List BuildStep) :
    (more.foldl System.step sys).ToldBy size (steps ++ more) := by
  induction more generalizing sys steps with
  | nil => simpa using h
  | cons last more ih => simpa using ih (h.step last)

end ToldBy

/-- What is built from steps is told by them. -/
theorem toldBy_ofSteps (size : Nat) (steps : List BuildStep) :
    (ofSteps size steps).ToldBy size steps :=
  (toldBy_unexplored size).foldl steps

namespace ToldBy

theorem mem_labelled_iff (h : sys.ToldBy size steps) :
    s ∈ sys.labelled i ↔ ∃ name, sys.index? name = some i ∧ .label name s ∈ steps := by
  constructor
  · intro hs
    obtain ⟨name, -, -, hi⟩ := (h.mem_labels i).1 (mem_labels_of_mem_labelled hs)
    exact ⟨name, hi, (h.mem_bearing name s).1 (mem_bearing_iff.2 ⟨i, hi, hs⟩)⟩
  · rintro ⟨name, hi, hlabel⟩
    obtain ⟨k, hk, hs⟩ := mem_bearing_iff.1 ((h.mem_bearing name s).2 hlabel)
    obtain rfl : k = i := Option.some.inj (hk.symm.trans hi)
    exact hs

/-- Steps are about one system, and if they say the same, about the same one. -/
theorem eq (h : sys.ToldBy size steps) (h' : sys'.ToldBy size steps')
    (hsteps : ∀ step, step ∈ steps ↔ step ∈ steps') (hnames : namesOf steps = namesOf steps') :
    sys = sys' := by
  have hindex : ∀ name, sys.index? name = sys'.index? name := fun name => Option.ext fun k => by
    rw [h.numbers.index?_iff, h'.numbers.index?_iff, hnames]
  refine eq_of_views (h.size_eq.trans h'.size_eq.symm) (fun s => ?_) (fun s t => ?_) (fun i => ?_)
    (fun i s => ?_) hindex (fun s => ?_)
  · simp only [h.mem_edges, h'.mem_edges, hsteps]
  · rw [h.leads, h'.leads, hsteps]
  · simp only [h.mem_labels, h'.mem_labels, hsteps, hindex]
  · simp only [h.mem_labelled_iff, h'.mem_labelled_iff, hsteps, hindex]
  · rw [h.mem_frontier, h'.mem_frontier, hsteps, hsteps]

end ToldBy

/-! ## The check at the end -/

/-- The system knows something about the state. -/
def SpeaksOf (sys : System) (s : Nat) : Prop :=
  s ∈ sys.edges ∨ (∃ source, sys.Leads source s) ∨ (∃ i, s ∈ sys.labelled i) ∨ s ∈ sys.frontier

theorem ToldBy.speaksOf_iff (h : sys.ToldBy size steps) :
    sys.SpeaksOf s ↔ ∃ step ∈ steps, s ∈ step.states := by
  unfold SpeaksOf
  simp only [h.mem_edges, h.leads, h.mem_labelled_iff, h.mem_frontier]
  constructor
  · rintro ((⟨t, hs⟩ | hs | hs) | ⟨source, hs⟩ | ⟨i, name, -, hs⟩ | hs | hs)
    all_goals exact ⟨_, hs, by simp [BuildStep.states]⟩
  · rintro ⟨step, hstep, hs⟩
    cases step with
    | edge source target =>
      rcases List.mem_cons.1 hs with rfl | hs
      · exact .inl (.inl ⟨target, hstep⟩)
      · obtain rfl := List.mem_singleton.1 hs
        exact .inr (.inl ⟨source, hstep⟩)
    | unknownEdge state =>
      obtain rfl := List.mem_singleton.1 hs
      exact .inl (.inr (.inl hstep))
    | deadEnd state =>
      obtain rfl := List.mem_singleton.1 hs
      exact .inl (.inr (.inr hstep))
    | frontier state =>
      obtain rfl := List.mem_singleton.1 hs
      exact .inr (.inr (.inr (.inr hstep)))
    | label name state =>
      obtain rfl := List.mem_singleton.1 hs
      obtain ⟨k, hk⟩ := h.exists_index? hstep
      exact .inr (.inr (.inl ⟨k, name, hk, hstep⟩))
    | proposition name => cases hs

theorem outOfRange?_eq_some (h : sys.outOfRange? s = some error) :
    sys.size ≤ s ∧ error = .stateOutOfRange s sys.size := by
  unfold outOfRange? at h
  split at h
  next => cases h
  next hge =>
    cases h
    exact ⟨Nat.le_of_not_lt hge, rfl⟩

theorem exists_of_regionError? {region : Region} (h : sys.regionError? region = some error) :
    ∃ s ∈ region, sys.size ≤ s ∧ error = .stateOutOfRange s sys.size := by
  obtain ⟨s, hs, herror⟩ := List.exists_of_findSome?_eq_some h
  exact ⟨s, Std.ExtTreeSet.mem_toList.1 hs, outOfRange?_eq_some herror⟩

/-- If all labelled indices have names, a violation is a state out of range. -/
theorem exists_of_violation? (hnamed : ∀ i ∈ sys.labels, sys.isNamed i = true)
    (h : sys.violation? = some error) :
    ∃ s, sys.SpeaksOf s ∧ sys.size ≤ s ∧ error = .stateOutOfRange s sys.size := by
  unfold violation? at h
  rcases Option.or_eq_some_iff.1 h with h | ⟨-, h⟩
  · rcases Option.or_eq_some_iff.1 h with h | ⟨-, h⟩
    · obtain ⟨⟨source, targets⟩, hmem, herror⟩ := List.exists_of_findSome?_eq_some h
      have hsource := Std.ExtTreeMap.mem_toList_iff_getElem?_eq_some.1 hmem
      rcases Option.or_eq_some_iff.1 herror with herror | ⟨-, herror⟩
      · have hedges : source ∈ sys.edges :=
          Std.ExtTreeMap.mem_iff_isSome_getElem?.2 (by rw [hsource]; rfl)
        exact ⟨source, .inl hedges, outOfRange?_eq_some herror⟩
      · obtain ⟨t, ht, hout⟩ := exists_of_regionError? herror
        exact ⟨t, .inr (.inl ⟨source, targets, hsource, ht⟩), hout⟩
    · obtain ⟨⟨i, states⟩, hmem, herror⟩ := List.exists_of_findSome?_eq_some h
      have hi := Std.ExtTreeMap.mem_toList_iff_getElem?_eq_some.1 hmem
      have hlabels : i ∈ sys.labels := Std.ExtTreeMap.mem_iff_isSome_getElem?.2 (by rw [hi]; rfl)
      simp only [hnamed i hlabels, if_true] at herror
      obtain ⟨s, hs, hout⟩ := exists_of_regionError? herror
      exact ⟨s, .inr (.inr (.inl ⟨i, mem_labelled_iff.2 ⟨states, hi, hs⟩⟩)), hout⟩
  · obtain ⟨s, hs, hout⟩ := exists_of_regionError? h
    exact ⟨s, .inr (.inr (.inr hs)), hout⟩

namespace ToldBy

theorem isNamed (h : sys.ToldBy size steps) (hi : i ∈ sys.labels) : sys.isNamed i = true := by
  obtain ⟨name, -, -, hindex⟩ := (h.mem_labels i).1 hi
  exact isNamed_iff.2 ⟨name, hindex⟩

theorem valid_iff (h : sys.ToldBy size steps) :
    sys.Valid ↔ ∀ step ∈ steps, ∀ s ∈ step.states, s < size := by
  constructor
  · intro hv step hstep s hs
    rw [← h.size_eq]
    obtain ⟨hsources, htargets, -, hlabelled, hfrontier⟩ := System.valid_iff.1 hv
    rcases h.speaksOf_iff.2 ⟨step, hstep, hs⟩ with hs | ⟨source, hs⟩ | ⟨i, hs⟩ | hs
    · exact hsources s hs
    · exact htargets source s hs
    · exact hlabelled i s hs
    · exact hfrontier s hs
  · intro hrange
    refine violation?_eq_none.1 (Option.eq_none_iff_forall_ne_some.2 fun error herror => ?_)
    obtain ⟨s, hs, hge, -⟩ := exists_of_violation? (fun i => h.isNamed) herror
    obtain ⟨step, hstep, hs⟩ := h.speaksOf_iff.1 hs
    rw [h.size_eq] at hge
    exact absurd (hrange step hstep s hs) (Nat.not_lt.2 hge)

end ToldBy

theorem build_eq_ok_iff : build size steps = .ok sys ↔
    sys = ofSteps size steps ∧ ∀ step ∈ steps, ∀ s ∈ step.states, s < size := by
  rw [build, checked_eq_ok, (toldBy_ofSteps size steps).valid_iff]

theorem exists_of_build_eq_error (h : build size steps = .error error) :
    ∃ step ∈ steps, ∃ s ∈ step.states, size ≤ s ∧ error = .stateOutOfRange s size := by
  have htold := toldBy_ofSteps size steps
  have hviolation : (ofSteps size steps).violation? = some error := by
    unfold build checked at h
    split at h
    next => cases h
    next error' herror =>
      cases h
      exact herror
  obtain ⟨s, hs, hout⟩ := exists_of_violation? (fun i => htold.isNamed) hviolation
  obtain ⟨step, hstep, hs⟩ := htold.speaksOf_iff.1 hs
  rw [htold.size_eq] at hout
  exact ⟨step, hstep, s, hs, hout⟩

/-- The index that a declaration gives is the place of the name, whatever comes later. -/
theorem getElem?_indexFor_ofSteps {earlier later : List BuildStep} :
    (namesOf (earlier ++ .proposition name :: later))[(ofSteps size earlier).indexFor name]? =
      some name := by
  have hdeclared := (toldBy_ofSteps size earlier).step (.proposition name)
  have hplace := (hdeclared.numbers.index?_iff name _).1 (index?_step_of_name? rfl)
  obtain ⟨more, hmore⟩ := BuildStep.namesOf_append (earlier ++ [.proposition name]) later
  rw [List.append_cons, hmore, List.getElem?_append_left (List.getElem?_eq_some_iff.1 hplace).1]
  exact hplace

/-- **A system is what its steps say.** It is built exactly if all states that steps speak
of are in range, and otherwise one that is not is reported. What is known of it can be read
off the steps; a name has the place as its index that it has among the names in the order of
their first mention, and every declaration of the name answers that. So steps in another
order build the same system, as long as names are first mentioned in the same order. -/
theorem build_tells_steps (size : Nat) (steps : List BuildStep) :
    ((∃ sys, build size steps = .ok sys) ↔ ∀ step ∈ steps, ∀ s ∈ step.states, s < size) ∧
    (∀ error, build size steps = .error error →
      ∃ step ∈ steps, ∃ s ∈ step.states, size ≤ s ∧ error = .stateOutOfRange s size) ∧
    (∀ sys, build size steps = .ok sys → sys.ToldBy size steps) ∧
    (∀ earlier later name, steps = earlier ++ .proposition name :: later →
      (namesOf steps)[(ofSteps size earlier).indexFor name]? = some name) ∧
    ∀ steps', steps.Perm steps' → namesOf steps = namesOf steps' →
      ∀ sys, build size steps = .ok sys ↔ build size steps' = .ok sys := by
  refine ⟨⟨?_, fun hrange => ⟨_, build_eq_ok_iff.2 ⟨rfl, hrange⟩⟩⟩,
    fun error => exists_of_build_eq_error, fun sys hsys => ?_, ?_, fun steps' hperm hnames sys => ?_⟩
  · rintro ⟨sys, hsys⟩
    exact (build_eq_ok_iff.1 hsys).2
  · rw [(build_eq_ok_iff.1 hsys).1]
    exact toldBy_ofSteps size steps
  · rintro earlier later name rfl
    exact getElem?_indexFor_ofSteps
  · have hsame : ofSteps size steps = ofSteps size steps' :=
      (toldBy_ofSteps size steps).eq (toldBy_ofSteps size steps') (fun step => hperm.mem_iff) hnames
    rw [build, build, hsame]

end System

end BranchingTime
