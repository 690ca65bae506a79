/-
Saving and loading. What is read has no known dead ends outside the frontier and no labels
without states, and of a system that has such, the texts do not tell them
(`writeTransitions_expressed`, `writeLabels_expressed`). So what comes back is the system
without them, `expressed`. As no formula can tell a dead end from a state whose successors
nobody has looked for, all checks end on it as they do on the system itself.

A system that was read has neither. Its texts are read back as the same system, whatever
texts it was first read from, so they are a normal form of those.
-/
import BranchingTime.Proofs.Format
import BranchingTime.Proofs.Locality
import BranchingTime.Proofs.Validity

namespace BranchingTime.System

open Text

variable {sys : System} {sink : Int} {marker transitions labels : String} {s t i k : Nat}

/-! ## Empty regions in a map -/

section

variable {a : Std.ExtTreeMap Nat Region} {keep : Nat → Region → Bool}

theorem eq_empty_of_not_isEmpty_eq_false {region : Region} (h : (!region.isEmpty) = false) :
    region = ∅ :=
  Std.ExtTreeSet.isEmpty_iff.1 (by simpa using h)

theorem getD_filter (h : ∀ k region, keep k region = false → region = ∅) :
    (a.filter keep).getD k ∅ = a.getD k ∅ := by
  rw [Std.ExtTreeMap.getD_eq_getD_getElem?, Std.ExtTreeMap.getD_eq_getD_getElem?,
    Std.ExtTreeMap.getElem?_filter']
  cases a[k]? with
  | none => rfl
  | some region =>
    cases hkeep : keep k region with
    | true => rw [Option.filter_some_pos hkeep]
    | false => rw [Option.filter_some_neg hkeep, h k region hkeep, Option.getD_none, Option.getD_some]

theorem flatMap_filter {β : Type} {f : Nat × Region → List β}
    (h : ∀ k region, keep k region = false → f (k, region) = []) :
    (a.filter keep).toList.flatMap f = a.toList.flatMap f := by
  rw [Std.ExtTreeMap.toList_filter]
  induction a.toList with
  | nil => rfl
  | cons p entries ih =>
    obtain ⟨k, region⟩ := p
    cases hkeep : keep k region with
    | true => simp [hkeep, ih]
    | false => simp [hkeep, ih, h k region hkeep]

end

/-! ## What comes back -/

/-- What the texts say of a system: all but its dead ends outside the frontier and its
labels without states. -/
def expressed (sys : System) : System :=
  { sys with
    edges := sys.edges.filter fun source targets => !targets.isEmpty || sys.frontier.contains source
    labels := sys.labels.filter fun _ states => !states.isEmpty }

theorem successors_expressed {targets : Region} : sys.expressed.successors s = some targets ↔
    sys.successors s = some targets ∧ (targets = ∅ → s ∈ sys.frontier) := by
  rw [successors, expressed, Std.ExtTreeMap.getElem?_filter', Option.filter_eq_some_iff, successors,
    Bool.or_eq_true_iff, Bool.not_eq_true', Bool.eq_false_iff, ne_eq,
    Std.ExtTreeSet.isEmpty_iff, Std.ExtTreeSet.contains_iff_mem, ← imp_iff_not_or]

theorem labels_expressed {states : Region} : sys.expressed.labels[i]? = some states ↔
    sys.labels[i]? = some states ∧ states ≠ ∅ := by
  rw [expressed, Std.ExtTreeMap.getElem?_filter', Option.filter_eq_some_iff, Bool.not_eq_true',
    Bool.eq_false_iff, ne_eq, Std.ExtTreeSet.isEmpty_iff]

theorem leads_expressed : sys.expressed.Leads s t ↔ sys.Leads s t := by
  rw [leads_iff_mem_getD, leads_iff_mem_getD, expressed, getD_filter]
  intro source targets h
  exact eq_empty_of_not_isEmpty_eq_false (Bool.or_eq_false_iff.1 h).1

theorem labelled_expressed (sys : System) (i : Nat) : sys.expressed.labelled i = sys.labelled i := by
  rw [labelled, expressed, getD_filter fun _ _ h => eq_empty_of_not_isEmpty_eq_false h, labelled]

theorem Valid.expressed (hv : sys.Valid) : sys.expressed.Valid where
  sources h := hv.sources (successors_expressed.1 h).1
  targets h := hv.targets (successors_expressed.1 h).1
  named h := hv.named (labels_expressed.1 h).1
  labelled h := hv.labelled (labels_expressed.1 h).1
  frontier := hv.frontier

/-! ## The texts -/

theorem writeTransitions_expressed (sys : System) (sink : Int) :
    sys.expressed.writeTransitions sink = sys.writeTransitions sink := by
  have hlines : sys.expressed.edges.toList.flatMap
        (fun edge => sys.edgeLines sink edge.1 edge.2) =
      sys.edges.toList.flatMap fun edge => sys.edgeLines sink edge.1 edge.2 := by
    refine flatMap_filter fun source targets h => ?_
    obtain ⟨hempty, hexplored⟩ := Bool.or_eq_false_iff.1 h
    obtain rfl := eq_empty_of_not_isEmpty_eq_false hempty
    rw [edgeLines, hexplored, Bool.and_false]
    rfl
  exact congrArg (fun lines => unlines (lines ++ _)) hlines

theorem indicesAt_expressed (sys : System) (s : Nat) : sys.expressed.indicesAt s = sys.indicesAt s := by
  rw [indicesAt, expressed, Std.ExtTreeMap.toList_filter, List.filter_filter, indicesAt]
  refine congrArg _ (List.filter_congr fun entry _ => ?_)
  cases hkeep : !entry.2.isEmpty with
  | true => exact Bool.and_true _
  | false =>
    rw [eq_empty_of_not_isEmpty_eq_false hkeep]
    rfl

theorem writeLabels_expressed (sys : System) (marker : String) :
    sys.expressed.writeLabels marker = sys.writeLabels marker := by
  have hstates : sys.expressed.labelledStates = sys.labelledStates := by
    refine Std.ExtTreeSet.ext_mem fun s => ?_
    simp only [mem_labelledStates, labelled_expressed]
    rfl
  have hlines : sys.expressed.labelLine = sys.labelLine := by
    funext s
    rw [labelLine, indicesAt_expressed, labelLine]
  rw [writeLabels_eq, writeLabels_eq, hstates, hlines]
  rfl

/-! ## Systems that can be saved -/

/-- The texts of the system, with this sink and this marker, can be read. Nothing is asked
of dead ends and of labels without states. -/
structure Writable (sys : System) (sink : Int) (marker : String) : Prop where
  target_ne_sink : ∀ s t, sys.Leads s t → (t : Int) ≠ sink
  source_le : ∀ s t, sys.Leads s t → s ≤ largestInt
  target_le : ∀ s t, sys.Leads s t → t ≤ largestInt
  frontier_le : ∀ s ∈ sys.frontier, s ≤ largestInt
  labelled_le : ∀ i, ∀ s ∈ sys.labelled i, s ≤ largestInt
  index_injective : ∀ name name' i, sys.index? name = some i → sys.index? name' = some i →
    name = name'
  name_ne_empty : ∀ name i, sys.index? name = some i → name ≠ ""
  name_no_blank : ∀ name i, sys.index? name = some i → ∀ c ∈ name.toList, isBlank c = false
  marker_no_blank : ∀ name i, sys.index? name = some i → ∀ c ∈ marker.toList, isBlank c = false

theorem Writable.expressible (h : sys.Writable sink marker) :
    sys.expressed.Expressible sink marker where
  deadEnd _ hs := (successors_expressed.1 hs).2 rfl
  target_ne_sink s t ht := h.target_ne_sink s t (leads_expressed.1 ht)
  source_le s t ht := h.source_le s t (leads_expressed.1 ht)
  target_le s t ht := h.target_le s t (leads_expressed.1 ht)
  frontier_le := h.frontier_le
  labelled_le i s hs := h.labelled_le i s (labelled_expressed sys i ▸ hs)
  index_injective := h.index_injective
  labelled_ne_empty _ hi := (labels_expressed.1 hi).2 rfl
  name_ne_empty := h.name_ne_empty
  name_no_blank := h.name_no_blank
  marker_no_blank := h.marker_no_blank

/-! ## Checks -/

theorem agreesOn_expressed (hv : sys.Valid) (names : String → Prop) :
    sys.AgreesOn sys.expressed (· < sys.size) names where
  left hs := hs
  right hs := hs
  closed _ ht := by
    obtain ⟨targets, htargets, hmem⟩ := ht
    exact hv.targets htargets hmem
  leads _ := leads_expressed.symm
  frontier _ := Iff.rfl
  bearing {s name} _ _ := by
    have hsame : sys.expressed.bearing name = sys.bearing name := by
      simp only [bearing, labelled_expressed]
      rfl
    rw [hsame]

theorem bounds_expressed (hv : sys.Valid) (f : Formula) : sys.expressed.bounds f = sys.bounds f := by
  have hagrees := agreesOn_expressed hv (· ∈ f.atoms)
  have hw := sys.bounds_within hv f
  have hw' := sys.expressed.bounds_within hv.expressed f
  -- the two agree on all states, and there is nothing else in the bounds
  have hregion : ∀ {a b : Region}, a ⊆ sys.states → b ⊆ sys.states →
      (∀ s, s < sys.size → (s ∈ a ↔ s ∈ b)) → b = a := fun ha hb h =>
    Std.ExtTreeSet.ext_mem fun s =>
      ⟨fun hs => (h s (mem_states.1 (hb s hs))).2 hs, fun hs => (h s (mem_states.1 (ha s hs))).1 hs⟩
  have hlower := hregion (fun s hs => hw.inside s (hw.ordered s hs))
    (fun s hs => hw'.inside s (hw'.ordered s hs))
    fun s hs => (hagrees.mem_bounds_iff (fun _ h => h) hs).1
  have hupper := hregion hw.inside hw'.inside
    fun s hs => (hagrees.mem_bounds_iff (fun _ h => h) hs).2
  exact Bounds.mk.injEq .. ▸ ⟨hlower, hupper⟩

/-- The same sets are built on both systems. -/
theorem affords_expressed (hv : sys.Valid) (f : Formula) :
    sys.expressed.Affords f ↔ sys.Affords f := by
  have hsize : sys.expressed.size = sys.size := rfl
  induction f with
  | neg f ih | ex f ih | ax f ih | eg f ih => simp only [Affords, ih, bounds_expressed hv, hsize]
  | conj f g ihf ihg | eu f g ihf ihg => simp only [Affords, ihf, ihg, bounds_expressed hv]
  | tt | ff | atom _ | disj _ _ | imp _ _ | iff _ _ | ag _ | ef _ | af _ | au _ _ => exact Iff.rfl

/-- **Saving and loading changes no check.** The texts of a system are read, and on the
system that was read every check ends as on the first one: with the same bounds, or, if
the states do not fit into a set, with the same fault. That is so even though dead ends
outside the frontier come back as states that nobody has explored, and labels without
states do not come back. -/
theorem check_eq_after_saving (hv : sys.Valid) (hsize : sys.size ≤ largestNat)
    (hindices : ∀ name i, sys.index? name = some i → i ≤ largestNat)
    (hsink : -(largestInt + 1 : Nat) ≤ sink ∧ sink ≤ largestInt) (h : sys.Writable sink marker) :
    ∃ sys', read ⟨sink, marker, ∅⟩ (sys.writeTransitions sink) (sys.writeLabels marker) = .ok sys' ∧
      (∀ s, sys.successors s = some ∅ → s ∉ sys.frontier → sys'.successors s = none) ∧
      (∀ i : Nat, sys.labels[i]? = some ∅ → sys'.labels[i]? = none) ∧
      ∀ c c' : Checker, c.Reached sys → c'.Reached sys' → ∀ f,
        ((c'.session sys').check f).1 = ((c.session sys).check f).1 ∧
        (sys.size < setLimit → ∃ b, ((c'.session sys').check f).1 = .ok b) := by
  refine ⟨sys.expressed, ?_, fun s hs hexplored => ?_, fun i hi => ?_, fun c c' hc hc' f => ⟨?_, ?_⟩⟩
  · rw [← writeTransitions_expressed, ← writeLabels_expressed]
    exact read_written hv.expressed h.expressible hsize hindices hsink
  · refine Option.eq_none_iff_forall_ne_some.2 fun targets ht => hexplored ?_
    obtain ⟨ht, hfrontier⟩ := successors_expressed.1 ht
    exact hfrontier (Option.some.inj (ht.symm.trans hs))
  · refine Option.eq_none_iff_forall_ne_some.2 fun states hstates => ?_
    obtain ⟨hstates, hne⟩ := labels_expressed.1 hstates
    exact hne (Option.some.inj (hstates.symm.trans hi))
  · have hokIf := hc'.check_okIf hv.expressed f
    rw [bounds_expressed hv, affords_expressed hv] at hokIf
    exact hokIf.unique (hc.check_okIf hv f)
  · exact fun hfits => hc'.exists_check_eq_ok hv.expressed hfits f

/-- A system with a dead end, and with a proposition that no state bears. -/
def idle : System :=
  { ofSteps 3 [.edge 0 1, .deadEnd 1, .unknownEdge 2, .label "p" 1, .proposition "q"] with
    labels := .ofList [(0, {1}), (1, ∅)] }

theorem check_eq_after_saving_idle : idle.Valid ∧ idle.Writable (-2) "prop_" ∧
    idle.successors 1 = some ∅ ∧ idle.labels[1]? = some ∅ ∧
    ∃ sys', read ⟨-2, "prop_", ∅⟩ (idle.writeTransitions (-2)) (idle.writeLabels "prop_") = .ok sys' ∧
      sys'.successors 1 = none ∧ sys'.labels[1]? = none ∧
      ∃ b, ((({} : Checker).session sys').check (.eg (.neg (.atom "p")))).1 = .ok b ∧
        ((({} : Checker).session idle).check (.eg (.neg (.atom "p")))).1 = .ok b := by
  have hv : idle.Valid := violation?_eq_none.1 (by decide +kernel)
  have hlt : ∀ {s}, s < idle.size → s ≤ largestInt := fun hs => by
    have hsize : idle.size ≤ largestInt := by decide +kernel
    omega
  have hleads : ∀ {s t}, idle.Leads s t → s < idle.size ∧ t < idle.size := by
    rintro s t ⟨targets, htargets, hmem⟩
    exact ⟨hv.sources htargets, hv.targets htargets hmem⟩
  have hnames : ∀ {name i}, idle.index? name = some i → (name, i) ∈ idle.names.toList :=
    Std.ExtTreeMap.mem_toList_iff_getElem?_eq_some.2
  have hall : ∀ p ∈ idle.names.toList, p.2 ≤ largestNat ∧ p.1 ≠ "" ∧
      p.1.toList.all (!isBlank ·) = true ∧ ∀ q ∈ idle.names.toList, p.2 = q.2 → p.1 = q.1 := by
    decide +kernel
  have hmarker : "prop_".toList.all (!isBlank ·) = true := by decide +kernel
  have hblank : ∀ {cs : List Char}, cs.all (!isBlank ·) = true → ∀ c ∈ cs, isBlank c = false := by
    simp
  have hwritable : idle.Writable (-2) "prop_" := {
    target_ne_sink _ t _ := by omega
    source_le _ _ h := hlt (hleads h).1
    target_le _ _ h := hlt (hleads h).2
    frontier_le _ hs := hlt (hv.frontier hs)
    labelled_le _ _ hs := by
      obtain ⟨states, hstates, hmem⟩ := mem_labelled_iff.1 hs
      exact hlt (hv.labelled hstates hmem)
    index_injective _ _ _ h h' := (hall _ (hnames h)).2.2.2 _ (hnames h') rfl
    name_ne_empty _ _ h := (hall _ (hnames h)).2.1
    name_no_blank _ _ h := hblank (hall _ (hnames h)).2.2.1
    marker_no_blank _ _ _ := hblank hmarker }
  have hdead : idle.successors 1 = some ∅ := by decide +kernel
  have hlabels : idle.labels[1]? = some ∅ := by decide +kernel
  obtain ⟨sys', hread, hlost, hdropped, hchecks⟩ := check_eq_after_saving hv (by decide +kernel)
    (fun _ _ h => (hall _ (hnames h)).1) (by decide) hwritable
  obtain ⟨hsame, hok⟩ := hchecks {} {} .refl .refl (.eg (.neg (.atom "p")))
  obtain ⟨b, hb⟩ := hok (by decide +kernel)
  exact ⟨hv, hwritable, hdead, hlabels, sys', hread, hlost 1 hdead (by decide +kernel),
    hdropped 1 hlabels, b, hb, hsame ▸ hb⟩

/-! ## Normal forms -/

theorem Declares.index_le {format : TextFormat} {ws : List (List Char)} {ps : List (String × Nat)}
    (h : List.Forall₂ (Declares format) ws ps) : ∀ p ∈ ps, p.2 ≤ largestNat := by
  induction h with
  | nil => simp
  | cons hp _ ih =>
    obtain ⟨_, _, -, ⟨_, -, -, hle⟩, -⟩ := hp
    exact List.forall_mem_cons.2 ⟨hle, ih⟩

/-- Sizes and indices that are read are unsigned numbers of 64 bits. -/
theorem le_largestNat_of_read {format : TextFormat} (h : read format transitions labels = .ok sys) :
    sys.size ≤ largestNat ∧ ∀ name i, sys.index? name = some i → i ≤ largestNat := by
  obtain ⟨doc, hdoc⟩ := exists_writtenAs_of_read h
  obtain rfl : doc.system = sys := Except.ok.inj ((read_eq_ok_of_writtenAs hdoc).symm.trans h)
  obtain ⟨_, _, _, -, ⟨_, -, -, hsize⟩, -, -⟩ := hdoc.transitions
  obtain ⟨_, -, hdeclared, hdistinct, -⟩ := hdoc.labels
  have hdescribes := Document.system_describes hdistinct
  refine ⟨hdescribes.size ▸ hsize, fun name i hi => ?_⟩
  exact Declares.index_le hdeclared _ ((hdescribes.index? name i).1 hi)

theorem read_written_of_read (hsink : -(largestInt + 1 : Nat) ≤ sink ∧ sink ≤ largestInt)
    (h : read ⟨sink, marker, ∅⟩ transitions labels = .ok sys) :
    read ⟨sink, marker, ∅⟩ (sys.writeTransitions sink) (sys.writeLabels marker) = .ok sys := by
  obtain ⟨size, htakes⟩ := exists_takes_of_read h
  obtain ⟨hsize, hindices⟩ := le_largestNat_of_read h
  exact read_written (htakes.valid (valid_unexplored size)) (expressible_of_read h) hsize hindices hsink

/-- **Writing brings texts into a normal form.** Whatever texts a system was read from, its
own texts are read as the same system, which has the same texts; and two systems that were
read have the same texts only if they are the same. -/
theorem write_normalises_texts (hsink : -(largestInt + 1 : Nat) ≤ sink ∧ sink ≤ largestInt)
    (h : read ⟨sink, marker, ∅⟩ transitions labels = .ok sys) :
    (∃ sys', read ⟨sink, marker, ∅⟩ (sys.writeTransitions sink) (sys.writeLabels marker) =
        .ok sys' ∧ sys' = sys ∧ sys'.writeTransitions sink = sys.writeTransitions sink ∧
      sys'.writeLabels marker = sys.writeLabels marker) ∧
    ∀ transitions' labels' sys', read ⟨sink, marker, ∅⟩ transitions' labels' = .ok sys' →
      (sys'.writeTransitions sink = sys.writeTransitions sink ∧
        sys'.writeLabels marker = sys.writeLabels marker ↔ sys' = sys) := by
  have hread := read_written_of_read hsink h
  refine ⟨⟨sys, hread, rfl, rfl, rfl⟩, fun transitions' labels' sys' h' => ?_⟩
  constructor
  · rintro ⟨htransitions, hlabels⟩
    have hread' := read_written_of_read hsink h'
    rw [htransitions, hlabels, hread] at hread'
    exact (Except.ok.inj hread').symm
  · rintro rfl
    exact ⟨rfl, rfl⟩

/-- Edges to a sink that is a state, edges and labels that are said twice, in no order. -/
theorem write_normalises_texts_untidy : ∃ sys,
    read ⟨2, "p_", ∅⟩ "2 -> 0\n 0->2\n0 -> 1\n0 -> +1\n0 -> 2\n1 -> 2\n\n3\n"
      "9=p_b\n1: 9 9\n" = .ok sys ∧
    sys.writeTransitions 2 = "0 -> 1\n1 -> 2\n2 -> 0\n0 1\n3\n" ∧
    sys.writeLabels "p_" = "9=p_b\n1: 9\n" ∧
    read ⟨2, "p_", ∅⟩ "0 -> 1\n1 -> 2\n2 -> 0\n0 1\n3\n" "9=p_b\n1: 9\n" = .ok sys := by
  have hread : ∃ sys, (read ⟨2, "p_", ∅⟩ "2 -> 0\n 0->2\n0 -> 1\n0 -> +1\n0 -> 2\n1 -> 2\n\n3\n"
      "9=p_b\n1: 9 9\n").toOption = some sys ∧
      decide (sys.writeTransitions 2 = "0 -> 1\n1 -> 2\n2 -> 0\n0 1\n3\n" ∧
        sys.writeLabels "p_" = "9=p_b\n1: 9\n") = true :=
    (Option.any_eq_true _ _).1 (by decide +kernel)
  obtain ⟨sys, hsys, htexts⟩ := hread
  obtain ⟨htransitions, hlabels⟩ := of_decide_eq_true htexts
  have hread := toOption_eq_some_iff.1 hsys
  obtain ⟨⟨sys', hagain, rfl, -, -⟩, -⟩ := write_normalises_texts (by decide) hread
  exact ⟨sys', hread, htransitions, hlabels, htransitions ▸ hlabels ▸ hagain⟩

end BranchingTime.System
