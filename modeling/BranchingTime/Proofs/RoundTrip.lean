/-
Reading what was written. The label text is read back as the propositions and labels
(`readLabels_writeLabels`), so the two texts of a system are read back as the system
itself; and since whatever is read is expressible, this is so for the expressible
systems and no others.
-/
import BranchingTime.Proofs.TransitionText
import BranchingTime.System.Build

namespace BranchingTime.System

open Text

variable {sys : System} {sink : Int} {marker name : String} {s i index number : Nat}
  {ps : List (String × Nat)}

/-! ## Declarations -/

/-- The declaration of a proposition. -/
def declaration (marker : String) (p : String × Nat) : String := s!"{p.2}={marker}{p.1}"

theorem toList_declaration (marker : String) (p : String × Nat) :
    (declaration marker p).toList = (toString p.2).toList ++
      ('=' :: [] ++ (marker.toList ++ p.1.toList)) := by
  have htext : declaration marker p = toString p.2 ++ "=" ++ marker ++ p.1 := rfl
  have hequals : "=".toList = ['='] := rfl
  rw [htext, String.toList_append, String.toList_append, String.toList_append, hequals]
  simp only [List.append_assoc]

theorem declaration_no_blank (hmarker : ∀ c ∈ marker.toList, isBlank c = false)
    (hname : ∀ c ∈ name.toList, isBlank c = false) :
    ∀ c ∈ (declaration marker (name, i)).toList, isBlank c = false := by
  intro c hc
  rw [toList_declaration] at hc
  simp only [List.mem_append, List.mem_singleton] at hc
  rcases hc with hc | rfl | hc | hc
  · exact toString_nat_no_blank _ c hc
  · decide
  · exact hmarker c hc
  · exact hname c hc

theorem readName?_append (hname : name ≠ "") :
    readName? ⟨sink, marker, ∅⟩ (marker.toList ++ name.toList) = some name := by
  refine readName?_eq_some_iff.2 ⟨name.toList, rfl, ?_, ?_⟩
  · exact fun hnil => hname (String.toList_eq_nil_iff.1 hnil)
  · rw [Renaming.apply, Std.ExtTreeMap.getD_empty, String.ofList_toList]

/-- A declaration is taken in if both the name and the index are new. -/
theorem takeDeclaration_declaration (hname : name ≠ "") (hle : i ≤ largestNat)
    (hindex : sys.isNamed i = false) (hnew : name ∉ sys.names) :
    takeDeclaration ⟨sink, marker, ∅⟩ sys (declaration marker (name, i)).toList =
      .ok (sys.nameAs name i) := by
  have hcut : cut? ['='] (declaration marker (name, i)).toList =
      some ((toString i).toList, marker.toList ++ name.toList) := by
    rw [toList_declaration]
    exact cut?_append (not_mem_toString (by decide))
  rw [takeDeclaration, hcut]
  dsimp only
  rw [readIndex_toString hle]
  refine bind_eq_ok_iff.2 ⟨i, rfl, ?_⟩
  rw [readName?_append hname]
  dsimp only
  rw [if_neg (by simp [hindex]), if_neg hnew]
  rfl

/-- Neither the name nor the index of the proposition is in use. -/
def IsFresh (sys : System) (p : String × Nat) : Prop := p.1 ∉ sys.names ∧ sys.isNamed p.2 = false

/-- A proposition is fresh after another one if they share neither name nor index. -/
theorem isFresh_nameAs_iff {p q : String × Nat} (hp : sys.IsFresh p) :
    (sys.nameAs p.1 p.2).IsFresh q ↔ (p.1 ≠ q.1 ∧ p.2 ≠ q.2) ∧ sys.IsFresh q := by
  have hnames : q.1 ∉ (sys.nameAs p.1 p.2).names ↔ p.1 ≠ q.1 ∧ q.1 ∉ sys.names := by
    simp [nameAs, Std.ExtTreeMap.mem_insert]
  have hindex : (sys.nameAs p.1 p.2).isNamed q.2 = false ↔ p.2 ≠ q.2 ∧ sys.isNamed q.2 = false := by
    rw [Bool.eq_false_iff, ne_eq, isNamed_nameAs_iff hp.1, not_or, Bool.eq_false_iff]
    exact and_congr_left' ne_comm
  rw [IsFresh, hnames, hindex, IsFresh]
  exact and_and_and_comm

/-- Give propositions their indices, one after another. -/
def nameAll (sys : System) (ps : List (String × Nat)) : System :=
  ps.foldl (fun sys p => sys.nameAs p.1 p.2) sys

/-- Declarations are taken in if no two names and no two indices are the same. -/
theorem foldlM_takeDeclaration (hps : ps.Pairwise fun p q => p.1 ≠ q.1 ∧ p.2 ≠ q.2)
    (hok : ∀ p ∈ ps, p.1 ≠ "" ∧ p.2 ≤ largestNat) (hnew : ∀ p ∈ ps, sys.IsFresh p) :
    (ps.map fun p => (declaration marker p).toList).foldlM
      (takeDeclaration ⟨sink, marker, ∅⟩) sys = .ok (sys.nameAll ps) := by
  induction ps generalizing sys with
  | nil => rfl
  | cons p ps ih =>
    obtain ⟨hp, hps⟩ := List.pairwise_cons.1 hps
    obtain ⟨⟨hname, hle⟩, hok⟩ := List.forall_mem_cons.1 hok
    obtain ⟨hfresh, hnew⟩ := List.forall_mem_cons.1 hnew
    rw [List.map_cons, List.foldlM_cons, takeDeclaration_declaration hname hle hfresh.2 hfresh.1]
    exact ih hps hok fun q hq => (isFresh_nameAs_iff hfresh).2 ⟨hp q hq, hnew q hq⟩

/-- The names after declarations with different names. -/
theorem index?_nameAll (hps : ps.Pairwise fun p q => p.1 ≠ q.1 ∧ p.2 ≠ q.2) :
    (sys.nameAll ps).index? name = some i ↔
      (name, i) ∈ ps ∨ sys.index? name = some i ∧ ∀ p ∈ ps, p.1 ≠ name := by
  induction ps generalizing sys with
  | nil => simp [nameAll]
  | cons p ps ih =>
    obtain ⟨hp, hps⟩ := List.pairwise_cons.1 hps
    have hcons : sys.nameAll (p :: ps) = (sys.nameAs p.1 p.2).nameAll ps := rfl
    have hdistinct : ∀ q ∈ ps, q.1 ≠ p.1 := fun q hq heq => (hp q hq).1 heq.symm
    rw [hcons, ih hps, index?_nameAs, List.mem_cons, List.forall_mem_cons, Prod.ext_iff]
    by_cases hname : p.1 = name
    · subst hname
      rw [if_pos rfl, and_iff_left hdistinct]
      simp [or_comm, @eq_comm _ i]
    · simp [hname, Ne.symm hname]

/-- Declarations change nothing but the names. -/
theorem nameAll_eq (sys : System) (ps : List (String × Nat)) :
    sys.nameAll ps = { sys with names := (sys.nameAll ps).names } := by
  induction ps generalizing sys with
  | nil => rfl
  | cons p ps ih => exact ih (sys.nameAs p.1 p.2)

/-! ## Propositions -/

theorem mem_propositions : (name, i) ∈ sys.propositions ↔ sys.index? name = some i := by
  rw [propositions, List.mem_mergeSort, Std.ExtTreeMap.mem_toList_iff_getElem?_eq_some, index?]

theorem propositions_pairwise (h : sys.Regular sink) :
    sys.propositions.Pairwise fun p q => p.1 ≠ q.1 ∧ p.2 ≠ q.2 := by
  have hkeys : sys.names.toList.Pairwise fun p q => p.1 ≠ q.1 :=
    Std.ExtTreeMap.distinct_keys_toList.imp fun hne heq => hne (by simp [heq])
  have hsorted : sys.propositions.Pairwise fun p q => p.1 ≠ q.1 :=
    hkeys.perm (List.mergeSort_perm _ _).symm fun hne => hne.symm
  refine hsorted.imp_of_mem fun {p q} hp hq hne => ⟨hne, fun heq => hne ?_⟩
  exact h.index_injective p.1 q.1 p.2 (mem_propositions.1 hp) (heq ▸ mem_propositions.1 hq)

theorem takeHeader_propositions (h : sys.Expressible sink marker)
    (hindices : ∀ name i, sys.index? name = some i → i ≤ largestNat) :
    takeHeader ⟨sink, marker, ∅⟩ { sys with labels := ∅, names := ∅ }
      (" ".intercalate (sys.propositions.map (declaration marker))).toList =
        .ok { sys with labels := ∅ } := by
  have hwords : words (" ".intercalate (sys.propositions.map (declaration marker))).toList =
      sys.propositions.map fun p => (declaration marker p).toList := by
    rw [String.toList_intercalate, List.map_map]
    refine words_intercalate (fun w hw => ?_) fun w hw => ?_
    · obtain ⟨p, -, rfl⟩ := List.mem_map.1 hw
      simp [toList_declaration]
    · obtain ⟨⟨name, i⟩, hp, rfl⟩ := List.mem_map.1 hw
      have hi := mem_propositions.1 hp
      exact declaration_no_blank (h.marker_no_blank name i hi) (h.name_no_blank name i hi)
  have hpairwise := propositions_pairwise h.toRegular
  have hnames : (nameAll { sys with labels := ∅, names := ∅ } sys.propositions).names =
      sys.names := by
    refine Std.ExtTreeMap.ext_getElem? fun name => Option.ext fun i => ?_
    rw [← index?, index?_nameAll hpairwise, mem_propositions]
    simp [index?]
  rw [takeHeader, hwords, foldlM_takeDeclaration hpairwise]
  · rw [nameAll_eq, hnames]
  · rintro ⟨name, i⟩ hp
    have hi := mem_propositions.1 hp
    exact ⟨h.name_ne_empty name i hi, hindices name i hi⟩
  · simp [IsFresh, isNamed]

/-! ## Labels -/

theorem mem_indicesAt : i ∈ sys.indicesAt s ↔ s ∈ sys.labelled i := by
  simp only [indicesAt, List.mem_map, List.mem_filter, Prod.exists, exists_and_right,
    exists_eq_right, Std.ExtTreeMap.mem_toList_iff_getElem?_eq_some, labelled,
    Std.ExtTreeMap.getD_eq_getD_getElem?]
  cases sys.labels[i]? with
  | none => simp
  | some region => simp

theorem mem_labelledStates :
    s ∈ sys.labelledStates ↔ (∃ i, s ∈ sys.labelled i) ∧ s < sys.size := by
  rw [labelledStates, Region.mem_filter_iff, Std.ExtTreeSet.mem_ofList, List.contains_iff_mem,
    decide_eq_true_iff]
  simp only [List.mem_flatMap, Prod.exists, Std.ExtTreeMap.mem_toList_iff_getElem?_eq_some,
    Std.ExtTreeSet.mem_toList, ← mem_indicesAt, indicesAt, List.mem_map, List.mem_filter,
    exists_and_right, exists_eq_right, Std.ExtTreeSet.contains_iff_mem]

/-- The line with the labels of a state. -/
def labelLine (sys : System) (state : Nat) : String := s!"{state}: {spaced (sys.indicesAt state)}"

theorem toList_labelLine (sys : System) (s : Nat) : (sys.labelLine s).toList =
    (toString s).toList ++ (':' :: [] ++ (' ' :: (spaced (sys.indicesAt s)).toList)) := by
  have htext : sys.labelLine s = toString s ++ ": " ++ spaced (sys.indicesAt s) := rfl
  have hcolon : ": ".toList = [':', ' '] := rfl
  rw [htext, String.toList_append, String.toList_append, hcolon]
  simp only [List.append_assoc, List.cons_append, List.nil_append]

/-- Label a state with these indices. -/
def labelAll (indices : Nat → List Nat) (sys : System) (state : Nat) : System :=
  (indices state).foldl (fun sys i => sys.addLabel i state) sys

theorem takeLabels_labelLine {sys' : System} (hs : sys'.Readable s)
    (hindices : ∀ i ∈ sys.indicesAt s, i ≤ largestNat ∧ sys'.isNamed i = true) :
    takeLabels sys' (sys.labelLine s).toList = .ok (labelAll sys.indicesAt sys' s) := by
  have hcut : cut? [':'] (sys.labelLine s).toList =
      some ((toString s).toList, ' ' :: (spaced (sys.indicesAt s)).toList) := by
    rw [toList_labelLine]
    exact cut?_append (not_mem_toString (by decide))
  have htrim : trim (toString s).toList = (toString s).toList :=
    trim_eq_self (toString_nat_no_blank s)
  have hstate := readState_toString hs
  have hsigned := (readState_eq_ok_iff.1 hstate).1
  have hnot : (s : Int) ≠ -1 := by omega
  rw [takeLabels, hcut]
  dsimp only
  rw [htrim, hsigned, hstate, words_cons (by decide), words_spaced]
  refine bind_eq_ok_iff.2 ⟨s, rfl, ?_⟩
  rw [if_neg hnot]
  refine bind_eq_ok_iff.2 ⟨s, rfl, ?_⟩
  refine foldlM_map (P := fun sys₁ => sys₁.names = sys'.names) (fun i hi sys₁ hnames => ?_)
    (fun _ _ hnames => hnames) rfl
  obtain ⟨hle, hnamed⟩ := hindices i hi
  have hnamed₁ : sys₁.isNamed i = true := by rw [isNamed, hnames, ← isNamed, hnamed]
  rw [takeLabel, readIndex_toString hle]
  refine bind_eq_ok_iff.2 ⟨i, rfl, ?_⟩
  rw [if_pos hnamed₁]
  rfl

/-- Additions that change nothing but the labels do so together. -/
theorem foldl_labels_eq {α : Type} {items : List α} {add : System → α → System}
    (h : ∀ sys a, ∃ labels, add sys a = { sys with labels := labels }) (sys : System) :
    ∃ labels, items.foldl add sys = { sys with labels := labels } := by
  induction items generalizing sys with
  | nil => exact ⟨sys.labels, rfl⟩
  | cons a items ih =>
    obtain ⟨labels, hadd⟩ := h sys a
    obtain ⟨labels', hitems⟩ := ih (add sys a)
    refine ⟨labels', ?_⟩
    rw [List.foldl_cons, hitems, hadd]

section

variable {indices : Nat → List Nat} {state : Nat} {states : List Nat}

theorem labelAll_eq (indices : Nat → List Nat) (sys : System) (state : Nat) :
    ∃ labels, labelAll indices sys state = { sys with labels := labels } :=
  foldl_labels_eq (fun _ _ => ⟨_, rfl⟩) sys

theorem mem_labels_labelAll :
    i ∈ (labelAll indices sys state).labels ↔ i ∈ sys.labels ∨ ∃ j ∈ indices state, i = j :=
  foldl_iff (V := (i ∈ ·.labels)) fun _ _ => mem_labels_addLabel.trans or_comm

theorem mem_labelled_labelAll : s ∈ (labelAll indices sys state).labelled i ↔
    s ∈ sys.labelled i ∨ ∃ j ∈ indices state, i = j ∧ s = state :=
  foldl_iff (V := (s ∈ ·.labelled i)) fun _ _ => mem_labelled_addLabel

theorem mem_labels_foldl : i ∈ (states.foldl (labelAll indices) sys).labels ↔
    i ∈ sys.labels ∨ ∃ s ∈ states, ∃ j ∈ indices s, i = j :=
  foldl_iff (V := (i ∈ ·.labels)) fun _ _ => mem_labels_labelAll

theorem mem_labelled_foldl : s ∈ (states.foldl (labelAll indices) sys).labelled i ↔
    s ∈ sys.labelled i ∨ ∃ t ∈ states, ∃ j ∈ indices t, i = j ∧ s = t :=
  foldl_iff (V := (s ∈ ·.labelled i)) fun _ _ => mem_labelled_labelAll

end

/-- An index is labelled exactly if some state is labelled with it. -/
theorem mem_labels_iff (h : sys.Regular sink) : i ∈ sys.labels ↔ ∃ s, s ∈ sys.labelled i := by
  constructor
  · intro hi
    refine Classical.byContradiction fun hnone => ?_
    exact h.labelled_ne_empty i (labels_eq_some_empty_iff.2 ⟨hi, not_exists.1 hnone⟩)
  · rintro ⟨s, hs⟩
    obtain ⟨states, hi, -⟩ := mem_labelled_iff.1 hs
    exact Std.ExtTreeMap.mem_iff_isSome_getElem?.2 (by rw [hi]; rfl)

/-- The labels that are written are all labels. -/
theorem foldl_labelAll_eq (hv : sys.Valid) (h : sys.Regular sink) :
    sys.labelledStates.toList.foldl (labelAll sys.indicesAt) { sys with labels := ∅ } = sys := by
  have hstate : ∀ i, ∀ s ∈ sys.labelled i, s ∈ sys.labelledStates.toList := by
    intro i s hs
    obtain ⟨states, hi, hmem⟩ := mem_labelled_iff.1 hs
    exact Std.ExtTreeSet.mem_toList.2 (mem_labelledStates.2 ⟨⟨i, hs⟩, hv.labelled hi hmem⟩)
  obtain ⟨labels, hlabels⟩ : ∃ labels, sys.labelledStates.toList.foldl (labelAll sys.indicesAt)
      { sys with labels := ∅ } = { sys with labels := labels } :=
    foldl_labels_eq (labelAll_eq sys.indicesAt) _
  refine eq_of_views (by rw [hlabels]) (fun s => by rw [hlabels]) (fun s t => by rw [hlabels]; rfl)
    (fun i => ?_) (fun i s => ?_) (fun name => by rw [hlabels]; rfl) (fun s => by rw [hlabels])
  · rw [mem_labels_foldl, mem_labels_iff h, or_iff_right (by simp)]
    constructor
    · rintro ⟨s, -, j, hj, rfl⟩
      exact ⟨s, mem_indicesAt.1 hj⟩
    · rintro ⟨s, hs⟩
      exact ⟨s, hstate i s hs, i, mem_indicesAt.2 hs, rfl⟩
  · rw [mem_labelled_foldl, or_iff_right (by simp [labelled])]
    constructor
    · rintro ⟨t, -, j, hj, rfl, rfl⟩
      exact mem_indicesAt.1 hj
    · intro hs
      exact ⟨s, hstate i s hs, i, mem_indicesAt.2 hs, rfl, rfl⟩

/-! ## The label text -/

theorem writeLabels_eq (sys : System) (marker : String) : sys.writeLabels marker =
    unlines (" ".intercalate (sys.propositions.map (declaration marker)) ::
      sys.labelledStates.toList.map sys.labelLine) := rfl

theorem tidy_labelLine (sys : System) (s : Nat) : Tidy (sys.labelLine s).toList := by
  have hcolon : Tidy [':', ' '] := by
    have hsign : isBlank ':' = false := by decide
    simp [Tidy, hsign]
  rw [toList_labelLine]
  exact (tidy_toString s).append (hcolon.append (tidy_spaced _))

theorem mem_intercalate_cons {c : Char} {w : List Char} {ws : List (List Char)} (h : c ∈ w) :
    c ∈ [' '].intercalate (w :: ws) := by
  cases ws with
  | nil => rwa [List.intercalate_singleton]
  | cons v ws =>
    rw [List.intercalate_cons_cons, List.append_assoc]
    exact List.mem_append_left _ h

/-- All lines of the label text count, if there are propositions. -/
theorem contentLines_writeLabels (h : sys.Expressible sink marker)
    (hsome : sys.index? name = some index) : contentLines (sys.writeLabels marker) =
      (" ".intercalate (sys.propositions.map (declaration marker))).toList ::
        sys.labelledStates.toList.map fun s => (sys.labelLine s).toList := by
  rw [writeLabels_eq, contentLines_unlines]
  · rw [List.map_cons, List.map_map]
    rfl
  · intro line hline
    rcases List.mem_cons.1 hline with rfl | hline
    · rw [String.toList_intercalate, List.map_map]
      refine .intercalate fun w hw => ?_
      obtain ⟨⟨name, i⟩, hp, rfl⟩ := List.mem_map.1 hw
      have hi := mem_propositions.1 hp
      exact fun c hc => .inr
        (declaration_no_blank (h.marker_no_blank name i hi) (h.name_no_blank name i hi) c hc)
    · obtain ⟨s, -, rfl⟩ := List.mem_map.1 hline
      exact tidy_labelLine sys s
  · intro line hline
    rcases List.mem_cons.1 (List.mem_of_getLast? hline) with rfl | hline
    · cases hprops : sys.propositions with
      | nil =>
        have hmem := mem_propositions.2 hsome
        rw [hprops] at hmem
        cases hmem
      | cons p ps =>
        obtain ⟨c, hc, hblank⟩ := exists_mem_toString_not_blank p.2
        refine ⟨c, ?_, hblank⟩
        rw [String.toList_intercalate, List.map_cons, List.map_cons]
        refine mem_intercalate_cons ?_
        rw [toList_declaration]
        exact List.mem_append_left _ hc
    · obtain ⟨s, -, rfl⟩ := List.mem_map.1 hline
      obtain ⟨c, hc, hblank⟩ := exists_mem_toString_not_blank s
      refine ⟨c, ?_, hblank⟩
      rw [toList_labelLine]
      exact List.mem_append_left _ hc

/-- Without propositions the label text is blank. -/
theorem contentLines_writeLabels_eq_nil (hnames : sys.names = ∅) (hlabels : sys.labels = ∅) :
    contentLines (sys.writeLabels marker) = [] := by
  have hprops : sys.propositions = [] := by
    refine List.eq_nil_iff_forall_not_mem.2 fun ⟨name, i⟩ hp => ?_
    simpa [index?, hnames] using mem_propositions.1 hp
  have hstates : sys.labelledStates.toList = [] := by
    refine List.eq_nil_iff_forall_not_mem.2 fun s hs => ?_
    obtain ⟨⟨i, hi⟩, -⟩ := mem_labelledStates.1 (Std.ExtTreeSet.mem_toList.1 hs)
    simp [labelled, hlabels] at hi
  rw [writeLabels_eq, hprops, hstates, List.map_nil, List.map_nil]
  decide

/-- The lines of the states that bear propositions are taken in as their labels. -/
theorem takeLines_labelLine {start : System} (hv : sys.Valid) (h : sys.Regular sink)
    (hindices : ∀ name i, sys.index? name = some i → i ≤ largestNat)
    (hstart : start.size = sys.size ∧ start.names = sys.names) :
    takeLines takeLabels number
      (sys.labelledStates.toList.map fun s => (sys.labelLine s).toList) start =
        .ok (sys.labelledStates.toList.foldl (labelAll sys.indicesAt) start) := by
  refine takeLines_map (P := fun sys' => sys'.size = sys.size ∧ sys'.names = sys.names)
    (fun s hs sys' ⟨hsize, hnames⟩ => ?_) (fun sys' s hkept => ?_) hstart
  · obtain ⟨⟨i, hi⟩, hlt⟩ := mem_labelledStates.1 (Std.ExtTreeSet.mem_toList.1 hs)
    refine takeLabels_labelLine ⟨hsize ▸ hlt, h.labelled_le i s hi⟩ fun j hj => ?_
    obtain ⟨states, hstates, -⟩ := mem_labelled_iff.1 (mem_indicesAt.1 hj)
    obtain ⟨name, hname⟩ := hv.named hstates
    refine ⟨hindices name j hname, isNamed_iff.2 ⟨name, ?_⟩⟩
    rw [index?, hnames, ← index?, hname]
  · obtain ⟨labels, hlabels⟩ := labelAll_eq sys.indicesAt sys' s
    rw [hlabels]
    exact hkept

/-- The label text is read back as the propositions and labels. -/
theorem readLabels_writeLabels (hv : sys.Valid) (h : sys.Expressible sink marker)
    (hindices : ∀ name i, sys.index? name = some i → i ≤ largestNat) :
    readLabels ⟨sink, marker, ∅⟩ (sys.writeLabels marker) { sys with labels := ∅, names := ∅ } =
      .ok sys := by
  by_cases hsome : ∃ name i, sys.index? name = some i
  · obtain ⟨name, i, hi⟩ := hsome
    rw [readLabels, contentLines_writeLabels h hi]
    refine bind_eq_ok_iff.2 ⟨{ sys with labels := ∅ }, ?_, ?_⟩
    · rw [takeLines, takeHeader_propositions h hindices]
      rfl
    · have hstart : ({ sys with labels := ∅ } : System).size = sys.size ∧
          ({ sys with labels := ∅ } : System).names = sys.names := ⟨rfl, rfl⟩
      rw [takeLines_labelLine hv h.toRegular hindices hstart, foldl_labelAll_eq hv h.toRegular]
  · have hnames : sys.names = ∅ := by
      refine Std.ExtTreeMap.ext_getElem? fun name => ?_
      rw [Std.ExtTreeMap.getElem?_empty]
      exact Option.eq_none_iff_forall_ne_some.2 fun i hi => hsome ⟨name, i, hi⟩
    have hlabels : sys.labels = ∅ := by
      refine Std.ExtTreeMap.ext_getElem? fun i => ?_
      rw [Std.ExtTreeMap.getElem?_empty]
      refine Option.eq_none_iff_forall_ne_some.2 fun states hi => ?_
      obtain ⟨name, hname⟩ := hv.named hi
      exact hsome ⟨name, i, hname⟩
    rw [readLabels, contentLines_writeLabels_eq_nil hnames hlabels]
    dsimp only
    rw [← hnames, ← hlabels]

theorem read_written (hv : sys.Valid) (h : sys.Expressible sink marker)
    (hsize : sys.size ≤ largestNat)
    (hindices : ∀ name i, sys.index? name = some i → i ≤ largestNat)
    (hsink : -(largestInt + 1 : Nat) ≤ sink ∧ sink ≤ largestInt) :
    read ⟨sink, marker, ∅⟩ (sys.writeTransitions sink) (sys.writeLabels marker) = .ok sys := by
  rw [read, readFrom]
  refine bind_eq_ok_iff.2 ⟨{ sys with labels := ∅, names := ∅ }, ?_, ?_⟩
  · exact mapError_eq_ok_iff.2 (readTransitions_writeTransitions hv h.toRegular hsize hsink)
  · exact mapError_eq_ok_iff.2 (readLabels_writeLabels hv h hindices)

/-- **Writing and reading give the system back exactly if it is expressible.** Sizes and
indices are unsigned numbers of 64 bits, and the sink is a signed one. -/
theorem read_write_iff (hv : sys.Valid) (hsize : sys.size ≤ largestNat)
    (hindices : ∀ name i, sys.index? name = some i → i ≤ largestNat)
    (hsink : -(largestInt + 1 : Nat) ≤ sink ∧ sink ≤ largestInt) :
    read ⟨sink, marker, ∅⟩ (sys.writeTransitions sink) (sys.writeLabels marker) = .ok sys ↔
      sys.Expressible sink marker :=
  ⟨expressible_of_read, fun h => read_written hv h hsize hindices hsink⟩

/-- A circle of states can be written, but not with one of its states as the sink. -/
theorem read_write_iff_ring :
    (ring 3).Valid ∧
    read ⟨-2, "prop_", ∅⟩ ((ring 3).writeTransitions (-2)) ((ring 3).writeLabels "prop_") =
      .ok (ring 3) ∧ (ring 3).Expressible (-2) "prop_" ∧
    read ⟨0, "prop_", ∅⟩ ((ring 3).writeTransitions 0) ((ring 3).writeLabels "prop_") ≠
      .ok (ring 3) := by
  have hv : (ring 3).Valid := violation?_eq_none.1 (by decide +kernel)
  have hsize : (ring 3).size ≤ largestNat := by decide +kernel
  have hindices : ∀ name i, (ring 3).index? name = some i → i ≤ largestNat := by
    intro name i hi
    have hall : ∀ p ∈ (ring 3).names.toList, p.2 ≤ largestNat := by decide +kernel
    exact hall (name, i) (Std.ExtTreeMap.mem_toList_iff_getElem?_eq_some.2 hi)
  have hread : read ⟨-2, "prop_", ∅⟩ ((ring 3).writeTransitions (-2))
      ((ring 3).writeLabels "prop_") = .ok (ring 3) :=
    toOption_eq_some_iff.1 (by decide +kernel)
  refine ⟨hv, hread, (read_write_iff hv hsize hindices (by decide)).1 hread, fun h => ?_⟩
  have hexpressible := (read_write_iff hv hsize hindices (by decide)).1 h
  have hleads : (ring 3).Leads 2 0 := ⟨_, rfl, by decide +kernel⟩
  exact hexpressible.target_ne_sink 2 0 hleads rfl

end BranchingTime.System
