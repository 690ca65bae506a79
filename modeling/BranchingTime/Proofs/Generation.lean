/-
Random systems, whatever is drawn. Of the source it is only assumed that choices are below
their bound and that nothing happens with probability zero (`Fair`); then every shape whose
probabilities are in `[0, 1]` has a system for every outcome of the draws, and the system
keeps to the shape (`Fits`).

A generator is a computation that draws, so what it gives is described step by step
(`Yields`). The steps that are drawn for a list of states speak of these states only, with
edges to states in range, few enough from each (`Plan`); what the system is like is then
read off its steps. The stream of numbers behind the seeds is a fair source.
-/
import BranchingTime.Random.Shape
import BranchingTime.Proofs.Assembly

namespace BranchingTime.Random

variable {σ α β : Type} {draws : Draws σ} {P : α → Prop} {Q : β → Prop}

/-! ## Drawing -/

/-- The computation gives something, whatever state the source is in, and what it gives has
the property. -/
def Yields (x : Drawing σ α) (P : α → Prop) : Prop :=
  ∀ s, ∃ a s', x s = .ok (a, s') ∧ P a

theorem Yields.pure {a : α} (h : P a) : Yields (pure a : Drawing σ α) P :=
  fun s => ⟨a, s, rfl, h⟩

theorem Yields.bind {x : Drawing σ α} {f : α → Drawing σ β} (hx : Yields x P)
    (hf : ∀ a, P a → Yields (f a) Q) : Yields (x >>= f) Q := by
  intro s
  obtain ⟨a, s', hrun, ha⟩ := hx s
  obtain ⟨b, s'', hnext, hb⟩ := hf a ha s'
  refine ⟨b, s'', ?_, hb⟩
  change x s >>= (fun result => f result.1 result.2) = _
  rw [hrun]
  exact hnext

namespace Draws

/-- Choices are below their bound, and nothing happens with probability zero. -/
structure Fair (draws : Draws σ) : Prop where
  below_lt : ∀ bound s, 0 < bound → (draws.below bound s).1 < bound
  chance_zero : ∀ s, (draws.chance 0.0 s).1 = false

namespace Fair

theorem yields_choose {bound : Nat} (h : draws.Fair) (hbound : 0 < bound) :
    Yields (draws.choose bound) (· < bound) :=
  fun s => ⟨_, _, rfl, h.below_lt bound s hbound⟩

theorem yields_decide {p : Float} (h : draws.Fair) (hp : isProbability p = true) :
    Yields (draws.decide p) fun happens => happens = true → p ≠ 0.0 := by
  intro s
  refine ⟨(draws.chance p s).1, (draws.chance p s).2, by simp [Draws.decide, hp], ?_⟩
  intro happens hzero
  subst hzero
  rw [h.chance_zero] at happens
  cases happens

end Fair

end Draws

namespace Shape

variable {shape : Shape} {size state s t : Nat} {states states' : List Nat}
  {steps steps' : List BuildStep} {name : String} {sys : System}

/-! ## What is drawn -/

/-- A step that can be drawn for a state. -/
inductive About (shape : Shape) (size state : Nat) : BuildStep → Prop where
  | deadEnd : About shape size state (.deadEnd state)
  | edge {t : Nat} (ht : t < size) : About shape size state (.edge state t)
  | frontier (h : shape.frontier ≠ 0.0) : About shape size state (.frontier state)
  | label {name : String} (hname : name ∈ shape.propositions) :
    About shape size state (.label name state)

/-- Steps that can be drawn for the listed states. -/
structure Plan (shape : Shape) (size : Nat) (states : List Nat) (steps : List BuildStep) :
    Prop where
  about : ∀ step ∈ steps, ∃ state ∈ states, shape.About size state step
  degree : ∀ s, ∃ targets : List Nat, targets.length ≤ shape.maxDegree ∧
    ∀ t, .edge s t ∈ steps → t ∈ targets
  deadEnd : shape.unexplored = 0.0 → ∀ s ∈ states, .deadEnd s ∈ steps

namespace Plan

theorem mem_of_edge (h : shape.Plan size states steps) (hedge : .edge s t ∈ steps) :
    s ∈ states := by
  obtain ⟨state, hstate, habout⟩ := h.about _ hedge
  cases habout
  exact hstate

theorem nil (shape : Shape) (size : Nat) : shape.Plan size [] [] :=
  ⟨by simp, fun s => ⟨[], by simp⟩, by simp⟩

/-- Steps for different states go together: edges from a state are among the steps for it. -/
theorem append (h : shape.Plan size states steps) (h' : shape.Plan size states' steps')
    (hdisjoint : ∀ s ∈ states, s ∉ states') :
    shape.Plan size (states ++ states') (steps ++ steps') := by
  refine ⟨?_, fun s => ?_, ?_⟩
  · intro step hstep
    rcases List.mem_append.1 hstep with hstep | hstep
    · obtain ⟨state, hstate, habout⟩ := h.about step hstep
      exact ⟨state, List.mem_append_left _ hstate, habout⟩
    · obtain ⟨state, hstate, habout⟩ := h'.about step hstep
      exact ⟨state, List.mem_append_right _ hstate, habout⟩
  · by_cases hs : s ∈ states
    · obtain ⟨targets, hlength, htargets⟩ := h.degree s
      refine ⟨targets, hlength, fun t ht => htargets t ?_⟩
      rcases List.mem_append.1 ht with ht | ht
      · exact ht
      · exact absurd (h'.mem_of_edge ht) (hdisjoint s hs)
    · obtain ⟨targets, hlength, htargets⟩ := h'.degree s
      refine ⟨targets, hlength, fun t ht => htargets t ?_⟩
      rcases List.mem_append.1 ht with ht | ht
      · exact absurd (h.mem_of_edge ht) hs
      · exact ht
  · intro hzero s hs
    rcases List.mem_append.1 hs with hs | hs
    · exact List.mem_append_left _ (h.deadEnd hzero s hs)
    · exact List.mem_append_right _ (h'.deadEnd hzero s hs)

/-- Steps that are no edges go with the edges of the state. -/
theorem append_marks (h : shape.Plan size [state] steps)
    (habout : ∀ step ∈ steps', shape.About size state step)
    (hedge : ∀ s t, .edge s t ∉ steps') : shape.Plan size [state] (steps ++ steps') := by
  refine ⟨?_, fun s => ?_, fun hzero s hs => List.mem_append_left _ (h.deadEnd hzero s hs)⟩
  · intro step hstep
    rcases List.mem_append.1 hstep with hstep | hstep
    · exact h.about step hstep
    · exact ⟨state, List.mem_singleton_self state, habout step hstep⟩
  · obtain ⟨targets, hlength, htargets⟩ := h.degree s
    refine ⟨targets, hlength, fun t ht => htargets t ?_⟩
    rcases List.mem_append.1 ht with ht | ht
    · exact ht
    · exact absurd ht (hedge s t)

/-- No edges, unless all successors are to be known. -/
theorem unexplored (h : shape.unexplored ≠ 0.0) : shape.Plan size [state] [] :=
  ⟨by simp, fun s => ⟨[], by simp⟩, fun hzero => absurd hzero h⟩

theorem explored {targets : List Nat} (hlength : targets.length ≤ shape.maxDegree)
    (hrange : ∀ t ∈ targets, t < size) :
    shape.Plan size [state] (.deadEnd state :: targets.map (.edge state)) := by
  refine ⟨?_, fun s => ⟨targets, hlength, ?_⟩, fun _ => by simp⟩
  · intro step hstep
    refine ⟨state, List.mem_singleton_self state, ?_⟩
    rcases List.mem_cons.1 hstep with rfl | hstep
    · exact .deadEnd
    · obtain ⟨t, ht, rfl⟩ := List.mem_map.1 hstep
      exact .edge (hrange t ht)
  · intro t ht
    simp only [List.mem_cons, reduceCtorEq, false_or, List.mem_map] at ht
    obtain ⟨t', ht', heq⟩ := ht
    cases heq
    exact ht'

end Plan

theorem yields_drawTargets (hfair : draws.Fair) (hsize : 0 < size) (count : Nat) :
    Yields (drawTargets draws size count) fun targets =>
      targets.length = count ∧ ∀ t ∈ targets, t < size := by
  induction count with
  | zero => exact .pure (by simp)
  | succ count ih =>
    unfold drawTargets
    refine (hfair.yields_choose hsize).bind fun target htarget => ?_
    refine ih.bind fun rest hrest => ?_
    refine .pure ⟨by simp [hrest.1], ?_⟩
    simpa using ⟨htarget, hrest.2⟩

theorem yields_drawEdges (hfair : draws.Fair) (hp : isProbability shape.unexplored = true)
    (hdegree : shape.maxDegree + 1 < wordCount) (hsize : 0 < size) (state : Nat) :
    Yields (drawEdges shape draws size state) (shape.Plan size [state]) := by
  unfold drawEdges
  refine (hfair.yields_decide hp).bind fun skipped hskipped => ?_
  split
  next h => exact .pure (.unexplored (hskipped h))
  next =>
    rw [if_neg (Nat.not_le.2 hdegree)]
    refine (hfair.yields_choose (Nat.succ_pos _)).bind fun degree hle => ?_
    refine (yields_drawTargets hfair hsize degree).bind fun targets htargets => ?_
    have hlength : targets.length ≤ shape.maxDegree := by omega
    exact .pure (.explored hlength htargets.2)

theorem yields_drawLabels (hfair : draws.Fair) (hp : isProbability shape.label = true)
    (state : Nat) (names : List String) :
    Yields (drawLabels shape draws state names) fun steps =>
      ∀ step ∈ steps, ∃ name ∈ names, step = .label name state := by
  induction names with
  | nil => exact .pure (by simp)
  | cons name rest ih =>
    unfold drawLabels
    refine (hfair.yields_decide hp).bind fun bears _ => ?_
    refine ih.bind fun more hmore => .pure ?_
    have hrest : ∀ step ∈ more, ∃ other ∈ name :: rest, step = .label other state := by
      intro step hstep
      obtain ⟨other, hother, heq⟩ := hmore step hstep
      exact ⟨other, List.mem_cons_of_mem name hother, heq⟩
    split
    next => exact List.forall_mem_cons.2 ⟨⟨name, List.mem_cons_self, rfl⟩, hrest⟩
    next => exact hrest

/-- All probabilities are in `[0, 1]`, and one more than the largest degree is a number of 64
bits. -/
structure Sound (shape : Shape) : Prop where
  frontier : isProbability shape.frontier = true
  unexplored : isProbability shape.unexplored = true
  label : isProbability shape.label = true
  maxDegree : shape.maxDegree + 1 < wordCount

theorem yields_drawState (hfair : draws.Fair) (hshape : shape.Sound) (hsize : 0 < size)
    (state : Nat) :
    Yields (drawState shape draws size state) (shape.Plan size [state]) := by
  unfold drawState
  refine (yields_drawEdges hfair hshape.unexplored hshape.maxDegree hsize state).bind
    fun edges hedges => ?_
  refine (hfair.yields_decide hshape.frontier).bind fun inFrontier hfrontier => ?_
  refine (yields_drawLabels hfair hshape.label state shape.propositions).bind
    fun labels hlabels => .pure ?_
  refine (hedges.append_marks ?_ ?_).append_marks ?_ ?_
  · intro step hstep
    split at hstep
    next h =>
      obtain rfl := List.mem_singleton.1 hstep
      exact .frontier (hfrontier h)
    next => cases hstep
  · intro s t hedge
    split at hedge
    next => cases List.mem_singleton.1 hedge
    next => cases hedge
  · intro step hstep
    obtain ⟨name, hname, rfl⟩ := hlabels step hstep
    exact .label hname
  · intro s t hedge
    obtain ⟨name, -, heq⟩ := hlabels _ hedge
    cases heq

theorem yields_drawStates (hfair : draws.Fair) (hshape : shape.Sound) (hsize : 0 < size)
    (hstates : states.Nodup) :
    Yields (drawStates shape draws size states) (shape.Plan size states) := by
  induction states with
  | nil => exact .pure (.nil shape size)
  | cons state rest ih =>
    obtain ⟨hstate, hrest⟩ := List.nodup_cons.1 hstates
    unfold drawStates
    refine (yields_drawState hfair hshape hsize state).bind fun steps hsteps => ?_
    refine (ih hrest).bind fun more hmore => .pure ?_
    exact hsteps.append hmore (by simpa using hstate)

/-! ## The system -/

/-- The system is one of the shape: it is valid, has the number of states asked for, at most
as many known edges from a state as asked for, and exactly the propositions of the list, each
with the number of different names that stand before it there as its index. -/
structure Fits (shape : Shape) (sys : System) : Prop where
  valid : sys.Valid
  size_eq : sys.size = max shape.size 1
  degree_le : ∀ s targets, sys.successors s = some targets → targets.size ≤ shape.maxDegree
  target_lt : ∀ s targets, sys.successors s = some targets → ∀ t ∈ targets, t < sys.size
  index?_iff : ∀ name k, sys.index? name = some k ↔ ∃ before after,
    shape.propositions = before ++ name :: after ∧ name ∉ before ∧ k = before.eraseDups.length

/-- The steps of a random system: first its propositions. -/
def allSteps (shape : Shape) (steps : List BuildStep) : List BuildStep :=
  shape.propositions.map .proposition ++ steps

theorem namesOf_allSteps (h : shape.Plan size states steps) :
    BuildStep.namesOf (shape.allSteps steps) = shape.propositions.eraseDups := by
  have hfirst : (shape.propositions.map BuildStep.proposition).filterMap BuildStep.name? =
      shape.propositions := by
    simp [List.filterMap_map, Function.comp_def, BuildStep.name?]
  have hlater : (steps.filterMap BuildStep.name?).removeAll shape.propositions = [] := by
    refine List.filter_eq_nil_iff.2 fun name hname => ?_
    obtain ⟨step, hstep, heq⟩ := List.mem_filterMap.1 hname
    obtain ⟨state, -, habout⟩ := h.about step hstep
    cases habout with
    | label hlisted =>
      cases heq
      simpa using hlisted
    | deadEnd | edge _ | frontier _ => cases heq
  rw [BuildStep.namesOf, allSteps, List.filterMap_append, hfirst, List.eraseDups_append, hlater,
    List.eraseDups_nil, List.append_nil]

/-- The place of a name among the different names of a list is the number of those before
its first occurrence. -/
theorem getElem?_eraseDups {before after : List String} (h : name ∉ before) :
    (before ++ name :: after).eraseDups[before.eraseDups.length]? = some name := by
  have hkept : (name :: after).removeAll before = name :: after.removeAll before := by
    simp [List.removeAll, h]
  rw [List.eraseDups_append, hkept, List.eraseDups_cons]
  simp

namespace Plan

theorem state_lt (h : shape.Plan size (List.range size) steps) :
    ∀ step ∈ shape.allSteps steps, ∀ s ∈ step.states, s < size := by
  intro step hstep s hs
  rcases List.mem_append.1 hstep with hstep | hstep
  · obtain ⟨name, -, rfl⟩ := List.mem_map.1 hstep
    cases hs
  · obtain ⟨state, hstate, habout⟩ := h.about step hstep
    have hlt : state < size := List.mem_range.1 hstate
    cases habout with
    | deadEnd | frontier _ | label _ =>
      obtain rfl := List.mem_singleton.1 hs
      exact hlt
    | edge ht =>
      simp only [BuildStep.states, List.mem_cons, List.not_mem_nil, or_false] at hs
      rcases hs with rfl | rfl
      · exact hlt
      · exact ht

/-- Steps that are no declarations are drawn ones. -/
theorem mem_of_mem_allSteps {step : BuildStep} (hstep : step ∈ shape.allSteps steps)
    (hname : ∀ name, step ≠ .proposition name) : step ∈ steps := by
  rcases List.mem_append.1 hstep with hstep | hstep
  · obtain ⟨name, -, rfl⟩ := List.mem_map.1 hstep
    exact absurd rfl (hname name)
  · exact hstep

theorem fits (h : shape.Plan size (List.range size) steps) (hsize : size = max shape.size 1)
    (htold : sys.ToldBy size (shape.allSteps steps)) : shape.Fits sys := by
  have hvalid : sys.Valid := htold.valid_iff.2 h.state_lt
  have hindex : ∀ name k, sys.index? name = some k ↔
      shape.propositions.eraseDups[k]? = some name := fun name k => by
    rw [htold.numbers.index?_iff, namesOf_allSteps h]
  refine ⟨hvalid, htold.size_eq.trans hsize, fun s targets hs => ?_, ?_, fun name k => ?_⟩
  · obtain ⟨drawn, hlength, hdrawn⟩ := h.degree s
    have hsubset : targets ⊆ Std.ExtTreeSet.ofList drawn := by
      intro t ht
      have hedge := (htold.leads s t).1 ⟨targets, hs, ht⟩
      simpa using hdrawn t (mem_of_mem_allSteps hedge (by simp))
    calc targets.size ≤ (Std.ExtTreeSet.ofList drawn : Region).size :=
          Region.size_le_of_subset hsubset
      _ ≤ drawn.length := Std.ExtTreeSet.size_ofList_le
      _ ≤ shape.maxDegree := hlength
  · exact fun s targets hs t => hvalid.targets hs
  · constructor
    · intro hk
      have hmem : name ∈ shape.propositions :=
        List.mem_eraseDups.1 (List.mem_of_getElem? ((hindex name k).1 hk))
      obtain ⟨before, after, hsplit, hnot⟩ := List.eq_append_cons_of_mem hmem
      have hplace := (hindex name before.eraseDups.length).2 (hsplit ▸ getElem?_eraseDups hnot)
      exact ⟨before, after, hsplit, hnot, Option.some.inj (hk.symm.trans hplace)⟩
    · rintro ⟨before, after, hsplit, hnot, rfl⟩
      exact (hindex name _).2 (hsplit ▸ getElem?_eraseDups hnot)

theorem frontier_eq_empty (h : shape.Plan size states steps) (hzero : shape.frontier = 0.0)
    (htold : sys.ToldBy size (shape.allSteps steps)) : sys.frontier = ∅ := by
  refine Std.ExtTreeSet.ext_mem fun s => ⟨fun hs => ?_, fun hs => absurd hs (by simp)⟩
  rcases (htold.mem_frontier s).1 hs with hstep | hstep
  · obtain ⟨state, -, habout⟩ := h.about _ (mem_of_mem_allSteps hstep (by simp))
    cases habout
  · obtain ⟨state, -, habout⟩ := h.about _ (mem_of_mem_allSteps hstep (by simp))
    cases habout with
    | frontier hne => exact absurd hzero hne

theorem exists_successors (h : shape.Plan size states steps) (hzero : shape.unexplored = 0.0)
    (htold : sys.ToldBy size (shape.allSteps steps)) (hs : s ∈ states) :
    ∃ targets, sys.successors s = some targets := by
  have hdeadEnd : .deadEnd s ∈ shape.allSteps steps :=
    List.mem_append_right _ (h.deadEnd hzero s hs)
  have hedges : s ∈ sys.edges := (htold.mem_edges s).2 (.inr (.inr hdeadEnd))
  exact Option.isSome_iff_exists.1 (Std.ExtTreeMap.mem_iff_isSome_getElem?.1 hedges)

end Plan

/-- What is generated is told by steps that were drawn for all states. -/
theorem exists_generate (hfair : draws.Fair) (hshape : shape.Sound) (source : σ) :
    ∃ sys steps, shape.generate draws source = .ok sys ∧
      shape.Plan (max shape.size 1) (List.range (max shape.size 1)) steps ∧
      sys.ToldBy (max shape.size 1) (shape.allSteps steps) := by
  have hsize : 0 < max shape.size 1 := Nat.lt_of_lt_of_le Nat.one_pos (Nat.le_max_right _ _)
  obtain ⟨steps, later, hrun, hplan⟩ :=
    yields_drawStates hfair hshape hsize List.nodup_range source
  have hbuild : System.build (max shape.size 1) (shape.allSteps steps) =
      .ok (System.ofSteps (max shape.size 1) (shape.allSteps steps)) :=
    System.build_eq_ok_iff.2 ⟨rfl, hplan.state_lt⟩
  refine ⟨_, steps, ?_, hplan, System.toldBy_ofSteps _ _⟩
  unfold generate
  exact bind_eq_ok_iff.2 ⟨(steps, later), hrun, mapError_eq_ok_iff.2 hbuild⟩

/-- **Every outcome of the draws makes a system of the shape.** With everything explored, no
state can have further successors, and the successors of all states are known. -/
theorem generate_fits (shape : Shape) (draws : Draws σ) (source : σ) (hfair : draws.Fair)
    (hshape : shape.Sound) :
    (∃ sys, shape.generate draws source = .ok sys ∧ shape.Fits sys) ∧
    ∃ sys, shape.explored.generate draws source = .ok sys ∧ shape.Fits sys ∧
      sys.frontier = ∅ ∧ ∀ s < sys.size, ∃ targets, sys.successors s = some targets := by
  constructor
  · obtain ⟨sys, steps, hrun, hplan, htold⟩ := exists_generate hfair hshape source
    exact ⟨sys, hrun, hplan.fits rfl htold⟩
  · have hzero : isProbability 0.0 = true := by decide +kernel
    have hexplored : shape.explored.Sound := ⟨hzero, hzero, hshape.label, hshape.maxDegree⟩
    obtain ⟨sys, steps, hrun, hplan, htold⟩ := exists_generate hfair hexplored source
    have hfits := hplan.fits rfl htold
    refine ⟨sys, hrun, ⟨hfits.valid, hfits.size_eq, hfits.degree_le, hfits.target_lt,
      hfits.index?_iff⟩, hplan.frontier_eq_empty rfl htold, fun s hs => ?_⟩
    exact hplan.exists_successors rfl htold (List.mem_range.2 (hfits.size_eq ▸ hs))

end Shape

/-! ## The stream of numbers -/

/-- The high half of a product with a number of 64 bits is below the other factor. -/
theorem high_lt {bound : Nat} (number : UInt64) (hbound : 0 < bound) :
    number.toNat * bound / wordCount < bound := by
  have hnumber : number.toNat < wordCount := number.toNat_lt
  refine Nat.div_lt_of_lt_mul ?_
  exact Nat.mul_lt_mul_of_pos_right hnumber hbound

theorem chooseBelow_lt {bound : Nat} (hbound : 0 < bound) (retries : Nat) (stream : Stream) :
    (chooseBelow bound retries stream).1 < bound := by
  induction retries generalizing stream with
  | zero => exact high_lt _ hbound
  | succ retries ih =>
    unfold chooseBelow
    simp only
    split
    next => exact high_lt _ hbound
    next => exact ih _

theorem ofStream_fair : Draws.ofStream.Fair := by
  refine ⟨fun bound stream hbound => chooseBelow_lt hbound 256 stream, fun stream => ?_⟩
  have hsure : ((0.0 : Float) == 1.0) = false := by decide +kernel
  have hnever : ((0.0 : Float) * Float.ofNat wordCount).toUInt64 = 0 := by decide +kernel
  simp [Draws.ofStream, decideWith, hsure, hnever]

/-- From every seed, the shape with all its defaults gets a valid system of twenty states with
at most three known edges each, whose propositions are `p` and `q`, in this order. -/
theorem generate_fits_default : Draws.ofStream.Fair ∧ Shape.Sound {} ∧
    ∀ seed, ∃ sys, Shape.ofSeed {} seed = .ok sys ∧ sys.Valid ∧ sys.size = 20 ∧
      (∀ s targets, sys.successors s = some targets → targets.size ≤ 3) ∧
      sys.index? "q" = some 1 := by
  have hsound : Shape.Sound {} :=
    ⟨by decide +kernel, by decide +kernel, by decide +kernel, by decide⟩
  refine ⟨ofStream_fair, hsound, fun seed => ?_⟩
  obtain ⟨⟨sys, hrun, hfits⟩, -⟩ :=
    Shape.generate_fits {} .ofStream (Stream.ofSeed seed) ofStream_fair hsound
  exact ⟨sys, hrun, hfits.valid, hfits.size_eq, hfits.degree_le,
    (hfits.index?_iff "q" 1).2 ⟨["p"], [], rfl, by decide, by decide⟩⟩

end BranchingTime.Random
