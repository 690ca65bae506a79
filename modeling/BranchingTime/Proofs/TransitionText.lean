/-
Written lines, and the transition text. Written lines are taken in one by one, and
each adds what it was written for (`takeLines_map`). So the system that is read is the
unexplored one with all these additions, and it is compared with the one that was
written by what is known of it. The transition text is read back as the transitions
of the system (`readTransitions_writeTransitions`).
-/
import BranchingTime.System.Writing
import BranchingTime.Proofs.Expressible

namespace BranchingTime.System

open Text

variable {sys : System} {sink target : Int} {marker : String} {cs : List Char} {ls : List String}
  {source s i n number : Nat}

/-! ## Lines -/

/-- No blanks but spaces are in the text. -/
def Tidy (cs : List Char) : Prop := ∀ c ∈ cs, c = ' ' ∨ isBlank c = false

theorem Tidy.append {ds : List Char} (h : Tidy cs) (hds : Tidy ds) : Tidy (cs ++ ds) := by
  intro c hc
  rcases List.mem_append.1 hc with hc | hc
  · exact h c hc
  · exact hds c hc

theorem Tidy.intercalate {ws : List (List Char)} (h : ∀ w ∈ ws, Tidy w) :
    Tidy ([' '].intercalate ws) := by
  induction ws with
  | nil => simp [Tidy]
  | cons w ws ih =>
    obtain ⟨hw, hws⟩ := List.forall_mem_cons.1 h
    cases ws with
    | nil => rwa [List.intercalate_singleton]
    | cons v ws =>
      rw [List.intercalate_cons_cons]
      exact (hw.append (by simp [Tidy])).append (ih hws)

theorem tidy_toString (i : Int) : Tidy (toString i).toList :=
  fun c hc => .inr (toString_int_no_blank i c hc)

theorem Tidy.not_mem {c : Char} (h : Tidy cs) (hne : c ≠ ' ') (hc : isBlank c = true) : c ∉ cs := by
  intro hmem
  rcases h c hmem with heq | hblank
  · exact hne heq
  · rw [hc] at hblank
    cases hblank

theorem toList_unlines (ls : List String) :
    (unlines ls).toList = ls.flatMap fun line => line.toList ++ ['\n'] := by
  simp [unlines, String.toList_join, List.flatMap_map]

theorem lines_unlines (h : ∀ line ∈ ls, Tidy line.toList) :
    lines (unlines ls).toList = ls.map String.toList := by
  rw [toList_unlines]
  induction ls with
  | nil => rfl
  | cons line ls ih =>
    obtain ⟨hline, hls⟩ := List.forall_mem_cons.1 h
    have hreturn : dropReturn line.toList = line.toList :=
      if_neg fun hlast => hline.not_mem (by decide) (by decide) (List.mem_of_getLast? hlast)
    rw [List.flatMap_cons, List.append_assoc, List.singleton_append,
      lines_append_cons (hline.not_mem (by decide) (by decide)), hreturn, ih hls, List.map_cons]

/-- All lines count, if the last one is not blank. -/
theorem contentLines_unlines (h : ∀ line ∈ ls, Tidy line.toList)
    (hlast : ∀ line, ls.getLast? = some line → ∃ c ∈ line.toList, isBlank c = false) :
    contentLines (unlines ls) = ls.map String.toList := by
  rw [contentLines, lines_unlines h]
  cases hrev : ls.reverse with
  | nil => simp [List.reverse_eq_nil_iff.1 hrev]
  | cons line others =>
    obtain ⟨c, hc, hblank⟩ := hlast line (by rw [← List.head?_reverse, hrev]; rfl)
    have hnot : ¬line.toList.all isBlank = true := by
      rw [List.all_eq_true]
      intro hall
      rw [hall c hc] at hblank
      cases hblank
    have hdrop : (line.toList :: others.map String.toList).dropWhile (·.all isBlank) =
        line.toList :: others.map String.toList := List.dropWhile_cons_of_neg hnot
    rw [← List.map_reverse, hrev, List.map_cons, hdrop, ← List.map_cons, ← hrev, List.map_reverse,
      List.reverse_reverse]

/-! ## Taking in what was written -/

section

variable {α β : Type} {items : List α} {add : System → α → System} {line : α → List Char}
  {take : System → List Char → Except LineProblem System} {P V : System → Prop} {A : α → Prop}

/-- Lines that are taken in one by one are taken in together. -/
theorem takeLines_map (htake : ∀ a ∈ items, ∀ sys, P sys → take sys (line a) = .ok (add sys a))
    (hadd : ∀ sys a, P sys → P (add sys a)) (h : P sys) :
    takeLines take number (items.map line) sys = .ok (items.foldl add sys) := by
  induction items generalizing number sys with
  | nil => rfl
  | cons a items ih =>
    obtain ⟨ha, hitems⟩ := List.forall_mem_cons.1 htake
    rw [List.map_cons, takeLines, ha sys h]
    exact ih hitems (hadd sys a h)

theorem foldlM_map (htake : ∀ a ∈ items, ∀ sys, P sys → take sys (line a) = .ok (add sys a))
    (hadd : ∀ sys a, P sys → P (add sys a)) (h : P sys) :
    (items.map line).foldlM take sys = .ok (items.foldl add sys) := by
  induction items generalizing sys with
  | nil => rfl
  | cons a items ih =>
    obtain ⟨ha, hitems⟩ := List.forall_mem_cons.1 htake
    rw [List.map_cons, List.foldlM_cons, ha sys h]
    exact ih hitems (hadd sys a h)

/-- What is known after many additions was known before, or is added by one of them. -/
theorem foldl_iff (h : ∀ sys a, V (add sys a) ↔ V sys ∨ A a) :
    V (items.foldl add sys) ↔ V sys ∨ ∃ a ∈ items, A a := by
  induction items generalizing sys with
  | nil => simp
  | cons a items ih => simp [ih, h, or_assoc]

theorem foldl_eq {F : System → β} (h : ∀ sys a, F (add sys a) = F sys) :
    F (items.foldl add sys) = F sys := by
  induction items generalizing sys with
  | nil => rfl
  | cons a items ih => rw [List.foldl_cons, ih, h]

end

/-! ## Numbers -/

theorem readSigned_toString (hle : target ≤ largestInt) (hge : -(largestInt + 1 : Nat) ≤ target) :
    readSigned (toString target).toList = .ok target := by
  rw [readSigned, trim_eq_self (toString_int_no_blank target), readInt_toString hle hge]
  rfl

theorem readState_toString (h : sys.Readable s) :
    readState sys.size (toString s).toList = .ok s := by
  have hread : readSigned (toString (s : Int)).toList = .ok s :=
    readSigned_toString (Int.ofNat_le.2 h.2) (by omega)
  exact readState_eq_ok_iff.2 ⟨hread, h.1⟩

theorem readIndex_toString (h : n ≤ largestNat) : readIndex (toString n).toList = .ok n := by
  rw [readIndex, trim_eq_self (toString_nat_no_blank n), readNat_toString h]
  rfl

/-! ## Edges -/

/-- The edges to write, each with its source and its target or the sink. -/
def writtenEdges (sys : System) (sink : Int) : List (Nat × Int) :=
  sys.edges.toList.flatMap fun (source, targets) =>
    if targets.isEmpty && sys.frontier.contains source then [(source, sink)]
    else targets.toList.map fun (target : Nat) => (source, (target : Int))

def edgeLine (edge : Nat × Int) : String := s!"{edge.1} -> {edge.2}"

theorem toList_edgeLine (edge : Nat × Int) : (edgeLine edge).toList =
    ((toString edge.1).toList ++ [' ']) ++ ('-' :: ['>'] ++ (' ' :: (toString edge.2).toList)) := by
  have hline : edgeLine edge = toString edge.1 ++ " -> " ++ toString edge.2 := rfl
  have harrow : " -> ".toList = [' ', '-', '>', ' '] := rfl
  rw [hline, String.toList_append, String.toList_append, harrow]
  simp only [List.append_assoc, List.cons_append, List.nil_append]

theorem tidy_edgeLine (edge : Nat × Int) : Tidy (edgeLine edge).toList := by
  have hspace : Tidy [' '] := by simp [Tidy]
  have harrow : Tidy ['-', '>'] := by
    have hsigns : isBlank '-' = false ∧ isBlank '>' = false := by decide
    simp [Tidy, hsigns]
  rw [toList_edgeLine]
  exact ((tidy_toString edge.1).append hspace).append
    (harrow.append (hspace.append (tidy_toString edge.2)))

theorem mem_writtenEdges : (s, target) ∈ sys.writtenEdges sink ↔
    sys.successors s = some ∅ ∧ s ∈ sys.frontier ∧ target = sink ∨
      ∃ t : Nat, target = t ∧ sys.Leads s t := by
  simp only [writtenEdges, List.mem_flatMap, Prod.exists,
    Std.ExtTreeMap.mem_toList_iff_getElem?_eq_some]
  constructor
  · rintro ⟨source, targets, hsource, hmem⟩
    split at hmem
    next h =>
      obtain ⟨hempty, hfrontier⟩ := Bool.and_eq_true_iff.1 h
      cases List.mem_singleton.1 hmem
      rw [Std.ExtTreeSet.isEmpty_iff.1 hempty] at hsource
      exact .inl ⟨hsource, Std.ExtTreeSet.contains_iff_mem.1 hfrontier, rfl⟩
    next =>
      obtain ⟨t, ht, heq⟩ := List.mem_map.1 hmem
      cases heq
      exact .inr ⟨t, rfl, targets, hsource, Std.ExtTreeSet.mem_toList.1 ht⟩
  · rintro (⟨hs, hfrontier, rfl⟩ | ⟨t, rfl, targets, hs, ht⟩)
    · exact ⟨s, ∅, hs, by simp [hfrontier]⟩
    · have hne : ¬(targets.isEmpty && sys.frontier.contains s) = true := by
        intro h
        have hempty := Std.ExtTreeSet.isEmpty_iff.1 (Bool.and_eq_true_iff.1 h).1
        simp [hempty] at ht
      refine ⟨s, targets, hs, ?_⟩
      rw [if_neg hne]
      exact List.mem_map.2 ⟨t, Std.ExtTreeSet.mem_toList.2 ht, rfl⟩

theorem writeTransitions_eq (sys : System) (sink : Int) : sys.writeTransitions sink =
    unlines ((sys.writtenEdges sink).map edgeLine ++
      [spaced sys.frontier.toList, toString sys.size]) := by
  have hedges : sys.edges.toList.flatMap (fun (source, targets) =>
      sys.edgeLines sink source targets) = (sys.writtenEdges sink).map edgeLine := by
    rw [writtenEdges, List.map_flatMap]
    congr 1
    funext ⟨source, targets⟩
    dsimp only [edgeLines]
    split
    · rfl
    · rw [List.map_map]
      rfl
  rw [writeTransitions, hedges]

/-- Take in an edge that was written. -/
def addWritten (sink : Int) (sys : System) (edge : Nat × Int) : System :=
  if edge.2 = sink then (sys.explore edge.1).addFrontier edge.1
  else sys.addEdge edge.1 edge.2.toNat

theorem not_mem_toString {c : Char} (hc : c.isDigit = false) : c ∉ (toString n).toList := by
  intro hmem
  rw [isDigit_of_mem_toString hmem] at hc
  cases hc

/-- The arrow of a written edge is found: the source has no hyphen in it. -/
theorem cut?_edgeLine (edge : Nat × Int) : cut? ['-', '>'] (edgeLine edge).toList =
    some ((toString edge.1).toList ++ [' '], ' ' :: (toString edge.2).toList) := by
  rw [toList_edgeLine]
  refine cut?_append fun hmem => ?_
  rcases List.mem_append.1 hmem with hdigit | hspace
  · exact not_mem_toString (by decide) hdigit
  · simp at hspace

theorem takeEdge_edgeLine (hsink : -(largestInt + 1 : Nat) ≤ sink ∧ sink ≤ largestInt)
    (hsource : sys.Readable source)
    (htarget : target = sink ∨ ∃ t : Nat, target = t ∧ sys.Readable t) :
    takeEdge sink sys (edgeLine (source, target)).toList =
      .ok (addWritten sink sys (source, target)) := by
  have hbefore : trim ((toString source).toList ++ [' ']) = (toString source).toList :=
    trim_append (toString_nat_no_blank source) (List.forall_mem_singleton.2 (by decide))
  have hafter : trim (' ' :: (toString target).toList) = (toString target).toList := by
    rw [trim_cons (by decide), trim_eq_self (toString_int_no_blank target)]
  have hsource' : readSigned (toString source).toList = .ok source :=
    (readState_eq_ok_iff.1 (readState_toString hsource)).1
  have htarget' : readSigned (toString target).toList = .ok target := by
    rcases htarget with rfl | ⟨t, rfl, ht⟩
    · exact readSigned_toString hsink.2 hsink.1
    · exact (readState_eq_ok_iff.1 (readState_toString ht)).1
  have hnot : (source : Int) ≠ -1 := by omega
  rw [takeEdge, cut?_edgeLine]
  dsimp only
  rw [hbefore, hafter, hsource', htarget', readState_toString hsource]
  simp only [bind, Except.bind, if_neg hnot, addWritten]
  rcases htarget with rfl | ⟨t, rfl, ht⟩
  · rw [if_pos rfl, if_pos rfl]
    rfl
  · split
    · rfl
    · have ht' : readState sys.size (toString (t : Int)).toList = .ok t := readState_toString ht
      rw [ht']
      rfl

theorem mem_edges_addWritten {edge : Nat × Int} :
    s ∈ (addWritten sink sys edge).edges ↔ s ∈ sys.edges ∨ s = edge.1 := by
  rw [addWritten, or_comm]
  split
  · exact mem_edges_explore
  · exact mem_edges_addEdge

theorem leads_addWritten {t : Nat} {edge : Nat × Int} : (addWritten sink sys edge).Leads s t ↔
    sys.Leads s t ∨ s = edge.1 ∧ edge.2 ≠ sink ∧ t = edge.2.toNat := by
  rw [addWritten]
  split
  next h =>
    have hexplore : ((sys.explore edge.1).addFrontier edge.1).Leads s t ↔ sys.Leads s t :=
      leads_explore
    simp [hexplore, h]
  next h => simp [leads_addEdge, h]

theorem mem_frontier_addWritten {edge : Nat × Int} :
    s ∈ (addWritten sink sys edge).frontier ↔ s ∈ sys.frontier ∨ s = edge.1 ∧ edge.2 = sink := by
  rw [addWritten]
  split
  next h =>
    rw [mem_frontier_addFrontier, or_comm]
    simp [h, explore]
  next h => simp [h, addEdge]

/-- A state has been looked at exactly if an edge is written for it. -/
theorem mem_edges_iff_exists_written (h : sys.Regular sink) :
    s ∈ sys.edges ↔ ∃ edge ∈ sys.writtenEdges sink, s = edge.1 := by
  constructor
  · intro hs
    by_cases hleads : ∃ t, sys.Leads s t
    · obtain ⟨t, ht⟩ := hleads
      exact ⟨(s, t), mem_writtenEdges.2 (.inr ⟨t, rfl, ht⟩), rfl⟩
    · have hempty := successors_eq_some_empty_iff.2 ⟨hs, not_exists.1 hleads⟩
      exact ⟨(s, sink), mem_writtenEdges.2 (.inl ⟨hempty, h.deadEnd s hempty, rfl⟩), rfl⟩
  · rintro ⟨⟨s, target⟩, hmem, rfl⟩
    rcases mem_writtenEdges.1 hmem with ⟨hempty, -⟩ | ⟨t, -, ht⟩
    · exact (successors_eq_some_empty_iff.1 hempty).1
    · exact ht.mem_edges

theorem leads_iff_exists_written {t : Nat} (h : sys.Regular sink) : sys.Leads s t ↔
    ∃ edge ∈ sys.writtenEdges sink, s = edge.1 ∧ edge.2 ≠ sink ∧ t = edge.2.toNat := by
  constructor
  · intro ht
    exact ⟨(s, t), mem_writtenEdges.2 (.inr ⟨t, rfl, ht⟩), rfl, h.target_ne_sink s t ht, rfl⟩
  · rintro ⟨⟨s, target⟩, hmem, rfl, hne, rfl⟩
    rcases mem_writtenEdges.1 hmem with ⟨-, -, heq⟩ | ⟨t, rfl, ht⟩
    · exact absurd heq hne
    · exact ht

theorem mem_frontier_of_written (h : sys.Regular sink)
    (hs : ∃ edge ∈ sys.writtenEdges sink, s = edge.1 ∧ edge.2 = sink) : s ∈ sys.frontier := by
  obtain ⟨⟨s, target⟩, hmem, rfl, rfl⟩ := hs
  rcases mem_writtenEdges.1 hmem with ⟨-, hfrontier, -⟩ | ⟨t, heq, ht⟩
  · exact hfrontier
  · exact absurd heq.symm (h.target_ne_sink s t ht)

section

variable {states : List Nat} {edges : List (Nat × Int)} {t : Nat}

theorem mem_frontier_foldl :
    s ∈ (states.foldl addFrontier sys).frontier ↔ s ∈ sys.frontier ∨ ∃ t ∈ states, s = t :=
  foldl_iff (V := (s ∈ ·.frontier)) fun _ _ => mem_frontier_addFrontier.trans or_comm

/-- States of the frontier change nothing else. -/
theorem foldl_addFrontier_kept (states : List Nat) (sys : System) :
    (states.foldl addFrontier sys).size = sys.size ∧
    (states.foldl addFrontier sys).edges = sys.edges ∧
    (states.foldl addFrontier sys).labels = sys.labels ∧
    (states.foldl addFrontier sys).names = sys.names := by
  have hkept : ∀ sys s, ((addFrontier sys s).size, (addFrontier sys s).edges,
      (addFrontier sys s).labels, (addFrontier sys s).names) =
        (sys.size, sys.edges, sys.labels, sys.names) := fun _ _ => rfl
  simpa only [Prod.mk.injEq] using
    foldl_eq (F := fun sys => (sys.size, sys.edges, sys.labels, sys.names)) hkept

theorem mem_edges_foldl : s ∈ (edges.foldl (addWritten sink) sys).edges ↔
    s ∈ sys.edges ∨ ∃ edge ∈ edges, s = edge.1 :=
  foldl_iff (V := (s ∈ ·.edges)) fun _ _ => mem_edges_addWritten

theorem leads_foldl : (edges.foldl (addWritten sink) sys).Leads s t ↔
    sys.Leads s t ∨ ∃ edge ∈ edges, s = edge.1 ∧ edge.2 ≠ sink ∧ t = edge.2.toNat :=
  foldl_iff (V := (·.Leads s t)) fun _ _ => leads_addWritten

theorem mem_frontier_foldl_addWritten : s ∈ (edges.foldl (addWritten sink) sys).frontier ↔
    s ∈ sys.frontier ∨ ∃ edge ∈ edges, s = edge.1 ∧ edge.2 = sink :=
  foldl_iff (V := (s ∈ ·.frontier)) fun _ _ => mem_frontier_addWritten

/-- Edges change neither the size nor the propositions. -/
theorem foldl_addWritten_kept (sink : Int) (edges : List (Nat × Int)) (sys : System) :
    (edges.foldl (addWritten sink) sys).size = sys.size ∧
    (edges.foldl (addWritten sink) sys).labels = sys.labels ∧
    (edges.foldl (addWritten sink) sys).names = sys.names := by
  have hkept : ∀ sys edge, ((addWritten sink sys edge).size, (addWritten sink sys edge).labels,
      (addWritten sink sys edge).names) = (sys.size, sys.labels, sys.names) := by
    intro sys edge
    rw [addWritten]
    split <;> rfl
  simpa only [Prod.mk.injEq] using
    foldl_eq (F := fun sys => (sys.size, sys.labels, sys.names)) hkept

end

/-- The frontier and the edges that are written are all that is known of the
transitions. -/
theorem foldl_addWritten_eq (h : sys.Regular sink) :
    (sys.writtenEdges sink).foldl (addWritten sink)
      (sys.frontier.toList.foldl addFrontier (unexplored sys.size)) =
        { sys with labels := ∅, names := ∅ } := by
  generalize hstart : sys.frontier.toList.foldl addFrontier (unexplored sys.size) = start
  obtain ⟨hsize, hedges, hlabels, hnames⟩ : start.size = sys.size ∧ start.edges = ∅ ∧
      start.labels = ∅ ∧ start.names = ∅ := hstart ▸ foldl_addFrontier_kept _ _
  have hfrontier : ∀ s, s ∈ start.frontier ↔ s ∈ sys.frontier := by
    intro s
    rw [← hstart, mem_frontier_foldl]
    simp [unexplored]
  have hleads : ∀ s t, ¬start.Leads s t := by
    intro s t
    simp [leads_iff_mem_getD, hedges]
  obtain ⟨hsize', hlabels', hnames'⟩ := foldl_addWritten_kept sink (sys.writtenEdges sink) start
  refine eq_of_views (hsize'.trans hsize) (fun s => ?_) (fun s t => ?_) (fun i => ?_)
    (fun i s => ?_) (fun name => ?_) (fun s => ?_)
  · rw [mem_edges_foldl, hedges, ← mem_edges_iff_exists_written h]
    simp
  · rw [leads_foldl, ← leads_iff_exists_written h]
    exact or_iff_right (hleads s t)
  · rw [hlabels', hlabels]
  · rw [labelled, labelled, hlabels', hlabels]
  · rw [index?, index?, hnames', hnames]
  · rw [mem_frontier_foldl_addWritten, hfrontier]
    exact or_iff_left_of_imp (mem_frontier_of_written h)

/-! ## Numbers in a line -/

theorem toList_spaced (numbers : List Nat) :
    (spaced numbers).toList = [' '].intercalate (numbers.map fun n => (toString n).toList) := by
  rw [spaced, String.toList_intercalate, List.map_map]
  rfl

theorem tidy_spaced (numbers : List Nat) : Tidy (spaced numbers).toList := by
  rw [toList_spaced]
  refine .intercalate fun w hw => ?_
  obtain ⟨n, -, rfl⟩ := List.mem_map.1 hw
  exact tidy_toString n

theorem words_spaced (numbers : List Nat) :
    words (spaced numbers).toList = numbers.map fun n => (toString n).toList := by
  rw [toList_spaced]
  refine words_intercalate (fun w hw => ?_) fun w hw => ?_
  · obtain ⟨n, -, rfl⟩ := List.mem_map.1 hw
    exact toString_nat_ne_nil n
  · obtain ⟨n, -, rfl⟩ := List.mem_map.1 hw
    exact toString_nat_no_blank n

/-! ## The transition text -/

theorem takeFrontier_spaced {states : List Nat} (h : ∀ s ∈ states, sys.Readable s) :
    takeFrontier sys (spaced states).toList = .ok (states.foldl addFrontier sys) := by
  rw [takeFrontier, words_spaced]
  refine foldlM_map (P := fun sys' => sys'.size = sys.size) (fun s hs sys' hsize => ?_)
    (fun _ _ hsize => hsize) rfl
  have hread : readState sys'.size (toString s).toList = .ok s :=
    hsize ▸ readState_toString (h s hs)
  rw [hread]
  rfl

theorem exists_mem_toString_not_blank (n : Nat) :
    ∃ c ∈ (toString n).toList, isBlank c = false := by
  obtain ⟨c, hc⟩ := List.exists_mem_of_ne_nil _ (toString_nat_ne_nil n)
  exact ⟨c, hc, toString_nat_no_blank n c hc⟩

theorem contentLines_writeTransitions (sys : System) (sink : Int) :
    contentLines (sys.writeTransitions sink) =
      (sys.writtenEdges sink).map (fun edge => (edgeLine edge).toList) ++
        [(spaced sys.frontier.toList).toList, (toString sys.size).toList] := by
  rw [writeTransitions_eq, contentLines_unlines]
  · rw [List.map_append, List.map_map]
    rfl
  · intro line hline
    simp only [List.mem_append, List.mem_map, List.mem_cons, List.not_mem_nil, or_false] at hline
    rcases hline with ⟨edge, -, rfl⟩ | rfl | rfl
    · exact tidy_edgeLine edge
    · exact tidy_spaced _
    · exact tidy_toString sys.size
  · intro line hline
    rw [List.getLast?_append] at hline
    cases hline
    exact exists_mem_toString_not_blank sys.size

theorem readable_of_written (hv : sys.Valid) (h : sys.Regular sink)
    (hmem : (s, target) ∈ sys.writtenEdges sink) :
    sys.Readable s ∧ (target = sink ∨ ∃ t : Nat, target = t ∧ sys.Readable t) := by
  rcases mem_writtenEdges.1 hmem with ⟨-, hs, rfl⟩ | ⟨t, rfl, ht⟩
  · exact ⟨⟨hv.frontier hs, h.frontier_le s hs⟩, .inl rfl⟩
  · have ⟨targets, hsource, htarget⟩ := ht
    exact ⟨⟨hv.sources hsource, h.source_le s t ht⟩,
      .inr ⟨t, rfl, hv.targets hsource htarget, h.target_le s t ht⟩⟩

/-- The lines of the edges are taken in as the edges. -/
theorem takeLines_edgeLine {start : System} (hv : sys.Valid) (h : sys.Regular sink)
    (hsink : -(largestInt + 1 : Nat) ≤ sink ∧ sink ≤ largestInt) (hstart : start.size = sys.size) :
    takeLines (takeEdge sink) number
      ((sys.writtenEdges sink).map fun edge => (edgeLine edge).toList) start =
        .ok ((sys.writtenEdges sink).foldl (addWritten sink) start) := by
  refine takeLines_map (P := fun sys' => sys'.size = sys.size) ?_ ?_ hstart
  · rintro ⟨s, target⟩ hmem sys' hsize
    have hreadable := readable_of_written hv h hmem
    simp only [Readable, ← hsize] at hreadable
    exact takeEdge_edgeLine hsink hreadable.1 hreadable.2
  · intro sys' edge hsize
    exact (foldl_addWritten_kept sink [edge] sys').1.trans hsize

/-- The transition text is read back as the transitions. -/
theorem readTransitions_writeTransitions (hv : sys.Valid) (h : sys.Regular sink)
    (hsize : sys.size ≤ largestNat) (hsink : -(largestInt + 1 : Nat) ≤ sink ∧ sink ≤ largestInt) :
    readTransitions sink (sys.writeTransitions sink) =
      .ok { sys with labels := ∅, names := ∅ } := by
  have hfrontier : takeFrontier (unexplored sys.size) (spaced sys.frontier.toList).toList =
      .ok (sys.frontier.toList.foldl addFrontier (unexplored sys.size)) := by
    refine takeFrontier_spaced fun s hs => ?_
    have hs := Std.ExtTreeSet.mem_toList.1 hs
    exact ⟨hv.frontier hs, h.frontier_le s hs⟩
  have hstart := (foldl_addFrontier_kept sys.frontier.toList (unexplored sys.size)).1
  simp only [readTransitions, contentLines_writeTransitions, List.reverse_append,
    List.reverse_cons, List.reverse_nil, List.nil_append, List.cons_append, List.reverse_reverse,
    readIndex_toString hsize, takeLines]
  refine bind_eq_ok_iff.2 ⟨sys.size, rfl, bind_eq_ok_iff.2 ⟨_, by rw [hfrontier], ?_⟩⟩
  rw [takeLines_edgeLine hv h hsink hstart, foldl_addWritten_eq h]

end BranchingTime.System
