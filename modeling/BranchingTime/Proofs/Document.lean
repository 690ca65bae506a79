/-
The text format, as what the lines say. A `Document` is what the two texts of a system
hold, line by line and in their order. `WrittenAs` says which texts hold it: how its
numbers are spelled, what stands between them, and which of them are in range.
`Describes` says what is known of a system that the document is about. It is about one
system only, and that is the one built from its entries (`describes_iff`).
-/
import BranchingTime.Proofs.RoundTrip
import BranchingTime.Proofs.Spelling
import Mathlib.Data.List.Forall2

namespace BranchingTime.System

open Text

/-- What a line of the transition text says. -/
inductive Transition where
  /-- Something about the start, which is passed over. -/
  | start
  /-- There is an edge to somewhere unknown. -/
  | unknown (source : Nat)
  | edge (source target : Nat)

/-- What a line of the label text says. -/
inductive Labelling where
  /-- Something about the start, which is passed over. -/
  | start
  /-- The state bears the propositions of these indices. -/
  | state (state : Nat) (indices : List Nat)

/-- What the two texts of a system hold. -/
structure Document where
  size : Nat
  frontier : List Nat
  transitions : List Transition
  /-- The names to use, and their indices. -/
  propositions : List (String × Nat)
  labellings : List Labelling

/-! ## Lines -/

/-- The text is the number of a state. -/
def IsState (size : Nat) (cs : List Char) (s : Nat) : Prop := IsSigned cs s ∧ s < size

/-- The line says this. Nothing is asked of what follows the arrow of the start, and the
sink does not have to be a state. -/
inductive Transition.SaidBy (sink : Int) (size : Nat) (line : List Char) : Transition → Prop where
  | start {before after : List Char} (hsplit : SplitsAt ['-', '>'] line before after)
    (hstart : IsSigned (trim before) (-1)) : SaidBy sink size line .start
  | unknown {before after : List Char} {source : Nat}
    (hsplit : SplitsAt ['-', '>'] line before after) (hsource : IsState size (trim before) source)
    (hsink : IsSigned (trim after) sink) : SaidBy sink size line (.unknown source)
  | edge {before after : List Char} {source target : Nat}
    (hsplit : SplitsAt ['-', '>'] line before after) (hsource : IsState size (trim before) source)
    (htarget : IsState size (trim after) target) (hsink : (target : Int) ≠ sink) :
    SaidBy sink size line (.edge source target)

/-- The word declares a proposition: its index, and after the marker its name, which is
then replaced by the one to use. -/
def Declares (format : TextFormat) (word : List Char) (p : String × Nat) : Prop :=
  ∃ before raw, SplitsAt ['='] word before (format.marker.toList ++ raw) ∧
    IsUnsigned before p.2 ∧ raw ≠ [] ∧ p.1 = format.aliases.apply (.ofList raw)

/-- The line says this, if these are the indices that were declared. -/
inductive Labelling.SaidBy (size : Nat) (declared : Nat → Prop) (line : List Char) :
    Labelling → Prop where
  | start {before after : List Char} (hsplit : SplitsAt [':'] line before after)
    (hstart : IsSigned (trim before) (-1)) : SaidBy size declared line .start
  | state {before after : List Char} {s : Nat} {indices : List Nat}
    (hsplit : SplitsAt [':'] line before after) (hstate : IsState size (trim before) s)
    (hindices : List.Forall₂ (fun word i => IsUnsigned word i ∧ declared i) (words after) indices) :
    SaidBy size declared line (.state s indices)

/-! ## Texts -/

namespace Document

/-- No two declarations share a name or an index. -/
def Distinct (ps : List (String × Nat)) : Prop := ps.Pairwise fun p q => p.1 ≠ q.1 ∧ p.2 ≠ q.2

/-- The index is that of some proposition. -/
def Declared (ps : List (String × Nat)) (i : Nat) : Prop := ∃ name, (name, i) ∈ ps

/-- The transition text holds the size, the frontier and the transitions. -/
def HasTransitions (doc : Document) (sink : Int) (text : String) : Prop :=
  ∃ edges frontier count, IsContent text (edges ++ [frontier, count]) ∧
    IsUnsigned (trim count) doc.size ∧
    List.Forall₂ (IsState doc.size) (words frontier) doc.frontier ∧
    List.Forall₂ (Transition.SaidBy sink doc.size) edges doc.transitions

/-- The label text holds the propositions and the labels. If it is blank, there are none. -/
def HasLabels (doc : Document) (format : TextFormat) (text : String) : Prop :=
  ∃ content, IsContent text content ∧
    List.Forall₂ (Declares format) (words (content.headD [])) doc.propositions ∧
    Distinct doc.propositions ∧
    List.Forall₂ (Labelling.SaidBy doc.size (Declared doc.propositions)) content.tail
      doc.labellings

/-- The two texts hold the document. -/
structure WrittenAs (doc : Document) (format : TextFormat) (transitions labels : String) :
    Prop where
  transitions : doc.HasTransitions format.sink transitions
  labels : doc.HasLabels format labels

/-! ## Meaning -/

/-- The document says all that is known of the system, and nothing else. -/
structure Describes (doc : Document) (sys : System) : Prop where
  size : sys.size = doc.size
  /-- The successors of a state are known if there is a line for it, perhaps one that says
  there are unknown ones. -/
  mem_edges : ∀ s, s ∈ sys.edges ↔
    .unknown s ∈ doc.transitions ∨ ∃ t, .edge s t ∈ doc.transitions
  leads : ∀ s t, sys.Leads s t ↔ .edge s t ∈ doc.transitions
  mem_frontier : ∀ s, s ∈ sys.frontier ↔ s ∈ doc.frontier ∨ .unknown s ∈ doc.transitions
  index? : ∀ name i, sys.index? name = some i ↔ (name, i) ∈ doc.propositions
  mem_labels : ∀ i, i ∈ sys.labels ↔ ∃ s indices, .state s indices ∈ doc.labellings ∧ i ∈ indices
  labelled : ∀ i s, s ∈ sys.labelled i ↔ ∃ indices, .state s indices ∈ doc.labellings ∧ i ∈ indices

end Document

/-! ## Building the system -/

variable {sys : System} {doc : Document} {transition : Transition} {labelling : Labelling}
  {s t i : Nat} {name : String}

def addTransition (sys : System) : Transition → System
  | .start => sys
  | .unknown source => (sys.explore source).addFrontier source
  | .edge source target => sys.addEdge source target

def addLabelling (sys : System) : Labelling → System
  | .start => sys
  | .state s indices => labelAll (fun _ => indices) sys s

theorem mem_edges_addTransition : s ∈ (sys.addTransition transition).edges ↔
    s ∈ sys.edges ∨ (transition = .unknown s ∨ ∃ t, transition = .edge s t) := by
  cases transition with
  | start => simp [addTransition]
  | unknown source =>
    rw [or_comm]
    exact mem_edges_explore.trans (by simp [@eq_comm _ s])
  | edge source target =>
    rw [or_comm]
    exact mem_edges_addEdge.trans (by simp [@eq_comm _ s])

theorem leads_addTransition :
    (sys.addTransition transition).Leads s t ↔ sys.Leads s t ∨ transition = .edge s t := by
  cases transition with
  | start => simp [addTransition]
  | unknown source => exact leads_explore.trans (by simp)
  | edge source target => exact leads_addEdge.trans (by simp [@eq_comm _ s, @eq_comm _ t])

theorem mem_frontier_addTransition : s ∈ (sys.addTransition transition).frontier ↔
    s ∈ sys.frontier ∨ transition = .unknown s := by
  cases transition with
  | start => simp [addTransition]
  | unknown source =>
    rw [or_comm]
    exact mem_frontier_addFrontier.trans (by simp [explore, @eq_comm _ s])
  | edge source target => simp [addTransition, addEdge]

theorem addTransition_kept (sys : System) (transition : Transition) :
    (sys.addTransition transition).size = sys.size ∧
    (sys.addTransition transition).labels = sys.labels ∧
    (sys.addTransition transition).names = sys.names := by
  cases transition <;> exact ⟨rfl, rfl, rfl⟩

theorem addLabelling_eq (sys : System) (labelling : Labelling) :
    ∃ labels, sys.addLabelling labelling = { sys with labels := labels } := by
  cases labelling with
  | start => exact ⟨sys.labels, rfl⟩
  | state s indices => exact labelAll_eq (fun _ => indices) sys s

theorem mem_labels_addLabelling : i ∈ (sys.addLabelling labelling).labels ↔
    i ∈ sys.labels ∨ ∃ s indices, labelling = .state s indices ∧ i ∈ indices := by
  cases labelling with
  | start => simp [addLabelling]
  | state s indices => exact mem_labels_labelAll.trans (by simp)

theorem mem_labelled_addLabelling : s ∈ (sys.addLabelling labelling).labelled i ↔
    s ∈ sys.labelled i ∨ ∃ indices, labelling = .state s indices ∧ i ∈ indices := by
  cases labelling with
  | start => simp [addLabelling]
  | state s indices => exact mem_labelled_labelAll.trans (by simp [@eq_comm _ s, and_comm])

namespace Document

/-- The system with the frontier and the transitions of the document. -/
def explored (doc : Document) : System :=
  doc.transitions.foldl addTransition (doc.frontier.foldl addFrontier (unexplored doc.size))

/-- The system that the document is about. -/
def system (doc : Document) : System :=
  doc.labellings.foldl addLabelling (doc.explored.nameAll doc.propositions)

/-- The size and the frontier come before the transitions. -/
theorem explored_start (doc : Document) : ∃ start : System,
    doc.explored = doc.transitions.foldl addTransition start ∧ start.size = doc.size ∧
    start.edges = ∅ ∧ start.labels = ∅ ∧ start.names = ∅ ∧
    ∀ s, s ∈ start.frontier ↔ s ∈ doc.frontier := by
  obtain ⟨hsize, hedges, hlabels, hnames⟩ :=
    foldl_addFrontier_kept doc.frontier (unexplored doc.size)
  refine ⟨_, rfl, hsize, hedges, hlabels, hnames, fun s => ?_⟩
  rw [mem_frontier_foldl]
  simp [unexplored]

theorem explored_kept (doc : Document) :
    doc.explored.size = doc.size ∧ doc.explored.labels = ∅ ∧ doc.explored.names = ∅ := by
  obtain ⟨start, hexplored, hsize, -, hlabels, hnames, -⟩ := explored_start doc
  rw [hexplored, ← hsize, ← hlabels, ← hnames]
  have hkept : ∀ sys transition, ((addTransition sys transition).size,
      (addTransition sys transition).labels, (addTransition sys transition).names) =
        (sys.size, sys.labels, sys.names) := by
    intro sys transition
    obtain ⟨hsize, hlabels, hnames⟩ := addTransition_kept sys transition
    rw [hsize, hlabels, hnames]
  simpa only [Prod.mk.injEq] using
    foldl_eq (F := fun sys => (sys.size, sys.labels, sys.names)) hkept

theorem mem_edges_explored : s ∈ doc.explored.edges ↔
    .unknown s ∈ doc.transitions ∨ ∃ t, .edge s t ∈ doc.transitions := by
  obtain ⟨start, hexplored, -, hedges, -⟩ := explored_start doc
  have hfold : s ∈ doc.explored.edges ↔ s ∈ start.edges ∨
      ∃ transition ∈ doc.transitions, transition = .unknown s ∨ ∃ t, transition = .edge s t := by
    rw [hexplored]
    exact foldl_iff (V := (s ∈ ·.edges)) fun _ _ => mem_edges_addTransition
  rw [hfold, hedges, or_iff_right Std.ExtTreeMap.not_mem_empty]
  constructor
  · rintro ⟨transition, hmem, rfl | ⟨t, rfl⟩⟩
    · exact .inl hmem
    · exact .inr ⟨t, hmem⟩
  · rintro (hmem | ⟨t, hmem⟩)
    · exact ⟨_, hmem, .inl rfl⟩
    · exact ⟨_, hmem, .inr ⟨t, rfl⟩⟩

theorem leads_explored : doc.explored.Leads s t ↔ .edge s t ∈ doc.transitions := by
  obtain ⟨start, hexplored, -, hedges, -⟩ := explored_start doc
  have hfold : doc.explored.Leads s t ↔
      start.Leads s t ∨ ∃ transition ∈ doc.transitions, transition = .edge s t := by
    rw [hexplored]
    exact foldl_iff (V := (·.Leads s t)) fun _ _ => leads_addTransition
  have hstart : ¬start.Leads s t := by simp [leads_iff_mem_getD, hedges]
  rw [hfold, or_iff_right hstart, exists_eq_right]

theorem mem_frontier_explored :
    s ∈ doc.explored.frontier ↔ s ∈ doc.frontier ∨ .unknown s ∈ doc.transitions := by
  obtain ⟨start, hexplored, -, -, -, -, hfrontier⟩ := explored_start doc
  have hfold : s ∈ doc.explored.frontier ↔
      s ∈ start.frontier ∨ ∃ transition ∈ doc.transitions, transition = .unknown s := by
    rw [hexplored]
    exact foldl_iff (V := (s ∈ ·.frontier)) fun _ _ => mem_frontier_addTransition
  rw [hfold, hfrontier, exists_eq_right]

/-- The propositions and the labels come on top of what is known of the transitions. -/
theorem exists_system_eq (doc : Document) : ∃ labels, doc.system =
    { doc.explored with labels := labels, names := (doc.explored.nameAll doc.propositions).names }
      := by
  obtain ⟨labels, hlabels⟩ : ∃ labels, doc.system =
      { doc.explored.nameAll doc.propositions with labels := labels } :=
    foldl_labels_eq addLabelling_eq _
  refine ⟨labels, ?_⟩
  rw [hlabels, nameAll_eq]

theorem mem_labels_system :
    i ∈ doc.system.labels ↔ ∃ s indices, .state s indices ∈ doc.labellings ∧ i ∈ indices := by
  have hfold : i ∈ doc.system.labels ↔ i ∈ (doc.explored.nameAll doc.propositions).labels ∨
      ∃ labelling ∈ doc.labellings, ∃ s indices, labelling = .state s indices ∧ i ∈ indices :=
    foldl_iff (V := (i ∈ ·.labels)) fun _ _ => mem_labels_addLabelling
  rw [hfold, nameAll_eq, (explored_kept doc).2.1, or_iff_right Std.ExtTreeMap.not_mem_empty]
  constructor
  · rintro ⟨_, hmem, s, indices, rfl, hi⟩
    exact ⟨s, indices, hmem, hi⟩
  · rintro ⟨s, indices, hmem, hi⟩
    exact ⟨_, hmem, s, indices, rfl, hi⟩

theorem mem_labelled_system :
    s ∈ doc.system.labelled i ↔ ∃ indices, .state s indices ∈ doc.labellings ∧ i ∈ indices := by
  have hfold : s ∈ doc.system.labelled i ↔
      s ∈ (doc.explored.nameAll doc.propositions).labelled i ∨
      ∃ labelling ∈ doc.labellings, ∃ indices, labelling = .state s indices ∧ i ∈ indices :=
    foldl_iff (V := (s ∈ ·.labelled i)) fun _ _ => mem_labelled_addLabelling
  have hstart : s ∉ (doc.explored.nameAll doc.propositions).labelled i := by
    rw [System.labelled, nameAll_eq, (explored_kept doc).2.1]
    simp
  rw [hfold, or_iff_right hstart]
  constructor
  · rintro ⟨_, hmem, indices, rfl, hi⟩
    exact ⟨indices, hmem, hi⟩
  · rintro ⟨indices, hmem, hi⟩
    exact ⟨_, hmem, indices, rfl, hi⟩

/-- The document describes the system that is built from it. -/
theorem system_describes (h : Distinct doc.propositions) : doc.Describes doc.system := by
  obtain ⟨hsize, -, hnames⟩ := explored_kept doc
  obtain ⟨labels, heq⟩ := exists_system_eq doc
  refine ⟨by rw [heq]; exact hsize, fun s => ?_, fun s t => ?_, fun s => ?_, fun name i => ?_,
    fun i => mem_labels_system, fun i s => mem_labelled_system⟩
  · rw [heq]
    exact mem_edges_explored
  · rw [heq]
    exact leads_explored
  · rw [heq]
    exact mem_frontier_explored
  · have hindex : doc.system.index? name =
        (doc.explored.nameAll doc.propositions).index? name := by
      rw [heq]
      rfl
    rw [hindex, index?_nameAll h]
    simp [System.index?, hnames]

/-- A document is about one system. -/
theorem Describes.eq {sys' : System} (h : doc.Describes sys) (h' : doc.Describes sys') :
    sys = sys' := by
  refine eq_of_views (h.size.trans h'.size.symm) (fun s => ?_) (fun s t => ?_) (fun i => ?_)
    (fun i s => ?_) (fun name => Option.ext fun i => ?_) (fun s => ?_)
  · rw [h.mem_edges, h'.mem_edges]
  · rw [h.leads, h'.leads]
  · rw [h.mem_labels, h'.mem_labels]
  · rw [h.labelled, h'.labelled]
  · rw [h.index?, h'.index?]
  · rw [h.mem_frontier, h'.mem_frontier]

theorem describes_iff (h : Distinct doc.propositions) : doc.Describes sys ↔ sys = doc.system := by
  constructor
  · exact fun hsys => hsys.eq (system_describes h)
  · rintro rfl
    exact system_describes h

end Document

end BranchingTime.System
