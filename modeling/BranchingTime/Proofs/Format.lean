/-
Reading accepts the text format, and nothing else. For each part of the two texts the
function that takes it in is shown to succeed exactly if the part says something, and to
add what it says; lines and words that are taken in one after another then say one thing
each (`foldlM_eq_ok_iff`). So two texts are read exactly if there is a document that
they hold, and as the system that it describes.
-/
import BranchingTime.Proofs.Document

namespace BranchingTime.System

open Text Document

variable {format : TextFormat} {sys sys' : System} {sink : Int} {line word content : List Char}
  {ls ws : List (List Char)} {text name : String} {size s number : Nat} {declared : Nat → Prop}
  {doc : Document}

/-! ## One after another -/

theorem takeLines_eq_ok_iff {take : System → List Char → Except LineProblem System} :
    takeLines take number ls sys = .ok sys' ↔ ls.foldlM take sys = .ok sys' := by
  induction ls generalizing number sys with
  | nil => simp [takeLines, pure, Except.pure]
  | cons line ls ih =>
    rw [takeLines, List.foldlM_cons, bind_eq_ok_iff]
    cases hline : take sys line with
    | error problem => simp
    | ok sys₁ => simp [ih]

theorem takeLines_singleton {take : System → List Char → Except LineProblem System} :
    takeLines take number [line] sys = .ok sys' ↔ take sys line = .ok sys' := by
  rw [takeLines_eq_ok_iff, List.foldlM_cons, bind_eq_ok_iff]
  simp [pure, Except.pure]

/-- Pieces of text that each say one thing together say one thing each. -/
theorem foldlM_eq_ok_iff {α : Type} {take : System → List Char → Except LineProblem System}
    {add : System → α → System} {R : List Char → α → Prop} {P : System → Prop}
    (htake : ∀ line ∈ ls, ∀ sys sys', P sys →
      (take sys line = .ok sys' ↔ ∃ a, R line a ∧ sys' = add sys a))
    (hadd : ∀ sys a, P sys → P (add sys a)) (h : P sys) :
    ls.foldlM take sys = .ok sys' ↔
      ∃ items, List.Forall₂ R ls items ∧ sys' = items.foldl add sys := by
  induction ls generalizing sys with
  | nil => simp [pure, Except.pure, @eq_comm _ sys]
  | cons line ls ih =>
    obtain ⟨hline, hls⟩ := List.forall_mem_cons.1 htake
    rw [List.foldlM_cons, bind_eq_ok_iff]
    constructor
    · rintro ⟨sys₁, hfirst, hrest⟩
      obtain ⟨a, ha, rfl⟩ := (hline sys sys₁ h).1 hfirst
      obtain ⟨items, hitems, rfl⟩ := (ih hls (hadd sys a h)).1 hrest
      exact ⟨a :: items, .cons ha hitems, rfl⟩
    · rintro ⟨items, hitems, rfl⟩
      cases hitems with
      | cons ha hitems =>
        exact ⟨_, (hline sys _ h).2 ⟨_, ha, rfl⟩, (ih hls (hadd sys _ h)).2 ⟨_, hitems, rfl⟩⟩

/-! ## Transitions -/

theorem readState_eq_ok_iff_isState :
    readState size content = .ok s ↔ IsState size (trim content) s := by
  rw [readState_eq_ok_iff, readSigned_eq_ok_iff, IsState]

theorem readSigned_trim_eq_ok_iff {i : Int} :
    readSigned (trim content) = .ok i ↔ IsSigned (trim content) i := by
  rw [readSigned_eq_ok_iff, trim_trim]

theorem readState_trim_eq_ok_iff :
    readState size (trim content) = .ok s ↔ IsState size (trim content) s := by
  rw [readState_eq_ok_iff_isState, trim_trim]

/-- A line is about the start, or about a state with which reading goes on. -/
theorem startOr_eq_ok_iff {f : Nat → Except LineProblem System} :
    (readSigned (trim content) >>= fun i =>
      if i = -1 then pure sys else readState size (trim content) >>= f) = .ok sys' ↔
    IsSigned (trim content) (-1) ∧ sys' = sys ∨
      ∃ s, IsState size (trim content) s ∧ f s = .ok sys' := by
  simp only [bind_eq_ok_iff, readSigned_trim_eq_ok_iff]
  constructor
  · rintro ⟨i, hi, h⟩
    split at h
    next hstart =>
      cases h
      exact .inl ⟨hstart ▸ hi, rfl⟩
    next =>
      obtain ⟨s, hs, h⟩ := bind_eq_ok_iff.1 h
      exact .inr ⟨s, readState_trim_eq_ok_iff.1 hs, h⟩
  · rintro (⟨hstart, rfl⟩ | ⟨s, hs, h⟩)
    · exact ⟨-1, hstart, rfl⟩
    · have hnot : ¬(s : Int) = -1 := by omega
      refine ⟨s, hs.1, ?_⟩
      rw [if_neg hnot]
      exact bind_eq_ok_iff.2 ⟨s, readState_trim_eq_ok_iff.2 hs, h⟩

theorem takeEdge_eq_ok_iff (hsize : sys.size = size) :
    takeEdge sink sys line = .ok sys' ↔ ∃ transition : Transition,
      transition.SaidBy sink size line ∧ sys' = sys.addTransition transition := by
  subst hsize
  constructor
  · intro h
    rw [takeEdge] at h
    split at h
    next => cases h
    next before after hcut =>
      have hsplit := cut?_eq_some_iff_splitsAt.1 hcut
      rcases startOr_eq_ok_iff.1 h with ⟨hstart, rfl⟩ | ⟨source, hsource, h⟩
      · exact ⟨.start, .start hsplit hstart, rfl⟩
      · obtain ⟨i, hi, h⟩ := bind_eq_ok_iff.1 h
        split at h
        next hsink =>
          cases h
          rw [readSigned_trim_eq_ok_iff] at hi
          exact ⟨.unknown source, .unknown hsplit hsource (hsink ▸ hi), rfl⟩
        next hsink =>
          obtain ⟨target, htarget, heq⟩ := bind_eq_ok_iff.1 h
          cases heq
          -- the target is the number that was compared with the sink
          obtain rfl : i = target := by
            cases hi.symm.trans (readState_eq_ok_iff.1 htarget).1
            rfl
          rw [readState_trim_eq_ok_iff] at htarget
          exact ⟨.edge source target, .edge hsplit hsource htarget hsink, rfl⟩
  · rintro ⟨transition, hsaid, rfl⟩
    rw [takeEdge]
    cases hsaid with
    | start hsplit hstart =>
      rw [cut?_eq_some_iff_splitsAt.2 hsplit]
      exact startOr_eq_ok_iff.2 (.inl ⟨hstart, rfl⟩)
    | @unknown _ _ source hsplit hsource hsink =>
      rw [cut?_eq_some_iff_splitsAt.2 hsplit]
      refine startOr_eq_ok_iff.2 (.inr ⟨source, hsource, ?_⟩)
      refine bind_eq_ok_iff.2 ⟨sink, readSigned_trim_eq_ok_iff.2 hsink, ?_⟩
      rw [if_pos rfl]
      rfl
    | @edge _ _ source target hsplit hsource htarget hsink =>
      rw [cut?_eq_some_iff_splitsAt.2 hsplit]
      refine startOr_eq_ok_iff.2 (.inr ⟨source, hsource, ?_⟩)
      refine bind_eq_ok_iff.2 ⟨target, readSigned_trim_eq_ok_iff.2 htarget.1, ?_⟩
      rw [if_neg hsink]
      exact bind_eq_ok_iff.2 ⟨target, readState_trim_eq_ok_iff.2 htarget, rfl⟩

theorem takeLines_takeEdge_eq_ok_iff (hsize : sys.size = size) :
    takeLines (takeEdge sink) number ls sys = .ok sys' ↔
      ∃ transitions, List.Forall₂ (Transition.SaidBy sink size) ls transitions ∧
        sys' = transitions.foldl addTransition sys := by
  rw [takeLines_eq_ok_iff]
  exact foldlM_eq_ok_iff (fun line _ sys₁ sys₂ => takeEdge_eq_ok_iff)
    (fun sys₁ a hsize => (addTransition_kept sys₁ a).1.trans hsize) hsize

theorem takeFrontier_eq_ok_iff : takeFrontier sys line = .ok sys' ↔
    ∃ states, List.Forall₂ (IsState sys.size) (words line) states ∧
      sys' = states.foldl addFrontier sys := by
  refine foldlM_eq_ok_iff (P := fun sys₁ => sys₁.size = sys.size)
    (fun word hword sys₁ sys₂ hsize => ?_) (fun sys₁ s hsize => hsize) rfl
  have htrim := trim_eq_self (of_mem_words hword).2
  simp only [bind_eq_ok_iff, readState_eq_ok_iff_isState, htrim, hsize]
  constructor
  · rintro ⟨s, hs, heq⟩
    cases heq
    exact ⟨s, hs, rfl⟩
  · rintro ⟨s, hs, rfl⟩
    exact ⟨s, hs, rfl⟩

/-- The transition text is read exactly if it holds transitions, and as these. -/
theorem readTransitions_eq_ok_iff : readTransitions sink text = .ok sys ↔
    ∃ doc : Document, doc.HasTransitions sink text ∧ sys = doc.explored := by
  constructor
  · intro h
    simp only [readTransitions] at h
    split at h
    next count frontier edges hreverse =>
      obtain ⟨size, hsize, h⟩ := bind_eq_ok_iff.1 h
      obtain ⟨start, hfrontier, htransitions⟩ := bind_eq_ok_iff.1 h
      rw [mapError_eq_ok_iff, readIndex_eq_ok_iff] at hsize
      obtain ⟨states, hstates, rfl⟩ := takeFrontier_eq_ok_iff.1 (takeLines_singleton.1 hfrontier)
      have hstart := (foldl_addFrontier_kept states (unexplored size)).1
      obtain ⟨transitions, hsaid, rfl⟩ := (takeLines_takeEdge_eq_ok_iff hstart).1 htransitions
      have hcontent : contentLines text = edges.reverse ++ [frontier, count] := by
        rw [List.reverse_eq_iff.1 hreverse]
        simp
      exact ⟨⟨size, states, transitions, [], []⟩,
        ⟨_, _, _, contentLines_eq_iff.1 hcontent, hsize, hstates, hsaid⟩, rfl⟩
    next => cases h
  · rintro ⟨doc, ⟨edges, frontier, count, hcontent, hsize, hstates, hsaid⟩, rfl⟩
    have hreverse : (contentLines text).reverse = count :: frontier :: edges.reverse := by
      rw [contentLines_eq_iff.2 hcontent]
      simp
    simp only [readTransitions, hreverse]
    refine bind_eq_ok_iff.2 ⟨doc.size, mapError_eq_ok_iff.2 (readIndex_eq_ok_iff.2 hsize), ?_⟩
    have hfrontier : takeFrontier (unexplored doc.size) frontier = .ok _ :=
      takeFrontier_eq_ok_iff.2 ⟨doc.frontier, hstates, rfl⟩
    refine bind_eq_ok_iff.2 ⟨_, takeLines_singleton.2 hfrontier, ?_⟩
    rw [List.reverse_reverse]
    exact (takeLines_takeEdge_eq_ok_iff (foldl_addFrontier_kept _ _).1).2
      ⟨doc.transitions, hsaid, rfl⟩

/-! ## Propositions -/

/-- A word that declares a proposition is refused only because of earlier ones. -/
theorem takeDeclaration_of_declares {index : Nat} (hword : ∀ c ∈ word, isBlank c = false)
    (h : Declares format word (name, index)) : takeDeclaration format sys word =
      if sys.isNamed index = true then .error (.unexpectedToken (.ofList word))
      else if name ∈ sys.names then .error (.repeatedProposition name)
      else .ok (sys.nameAs name index) := by
  obtain ⟨left, raw, hsplit, hindex, hraw, hname⟩ := h
  rw [← trim_of_splitsAt hword hsplit, ← readIndex_eq_ok_iff] at hindex
  rw [takeDeclaration, cut?_eq_some_iff_splitsAt.2 hsplit]
  dsimp only at hindex ⊢
  rw [hindex, readName?_eq_some_iff.2 ⟨raw, rfl, hraw, hname⟩]
  show (if _ then _ else _) = _
  split
  next => rfl
  next =>
    show (if _ then _ else _) = _
    split
    next => rfl
    next => rfl

theorem takeDeclaration_eq_ok_iff (hword : ∀ c ∈ word, isBlank c = false) :
    takeDeclaration format sys word = .ok sys' ↔
      ∃ p, Declares format word p ∧ sys.IsFresh p ∧ sys' = sys.nameAs p.1 p.2 := by
  constructor
  · intro h
    rw [takeDeclaration] at h
    split at h
    next => cases h
    next before after hcut =>
      have hsplit := cut?_eq_some_iff_splitsAt.1 hcut
      obtain ⟨index, hindex, hrest⟩ := bind_eq_ok_iff.1 h
      clear h
      rw [readIndex_eq_ok_iff, trim_of_splitsAt hword hsplit] at hindex
      split at hrest
      next => cases hrest
      next name hname =>
        obtain ⟨raw, rfl, hraw, hname⟩ := readName?_eq_some_iff.1 hname
        dsimp only at hrest
        split at hrest
        next => cases hrest
        next hunused =>
          split at hrest
          next => cases hrest
          next hnew =>
            cases hrest
            exact ⟨(name, index), ⟨before, raw, hsplit, hindex, hraw, hname⟩,
              ⟨hnew, by simpa using hunused⟩, rfl⟩
  · rintro ⟨⟨name, index⟩, hdeclares, hfresh, rfl⟩
    rw [takeDeclaration_of_declares hword hdeclares, if_neg (by simp [hfresh.2]), if_neg hfresh.1]

theorem foldlM_takeDeclaration_eq_ok_iff (hws : ∀ word ∈ ws, ∀ c ∈ word, isBlank c = false) :
    ws.foldlM (takeDeclaration format) sys = .ok sys' ↔
      ∃ ps, List.Forall₂ (Declares format) ws ps ∧ Distinct ps ∧ (∀ p ∈ ps, sys.IsFresh p) ∧
        sys' = sys.nameAll ps := by
  induction ws generalizing sys with
  | nil => simp [pure, Except.pure, nameAll, Distinct, @eq_comm _ sys]
  | cons word ws ih =>
    obtain ⟨hword, hws⟩ := List.forall_mem_cons.1 hws
    rw [List.foldlM_cons, bind_eq_ok_iff]
    constructor
    · rintro ⟨sys₁, hfirst, hrest⟩
      obtain ⟨p, hp, hfresh, rfl⟩ := (takeDeclaration_eq_ok_iff hword).1 hfirst
      obtain ⟨ps, hps, hdistinct, hnew, rfl⟩ := (ih hws).1 hrest
      simp only [isFresh_nameAs_iff hfresh] at hnew
      exact ⟨p :: ps, .cons hp hps, .cons (fun q hq => (hnew q hq).1) hdistinct,
        List.forall_mem_cons.2 ⟨hfresh, fun q hq => (hnew q hq).2⟩, rfl⟩
    · rintro ⟨ps, hps, hdistinct, hnew, rfl⟩
      cases hps with
      | @cons _ p _ ps hp hps =>
        obtain ⟨hne, hdistinct⟩ := List.pairwise_cons.1 hdistinct
        obtain ⟨hfresh, hnew⟩ := List.forall_mem_cons.1 hnew
        refine ⟨_, (takeDeclaration_eq_ok_iff hword).2 ⟨p, hp, hfresh, rfl⟩, (ih hws).2 ?_⟩
        exact ⟨ps, hps, hdistinct,
          fun q hq => (isFresh_nameAs_iff hfresh).2 ⟨hne q hq, hnew q hq⟩, rfl⟩

/-- If there are no propositions yet, all that counts is that those of the header differ. -/
theorem takeHeader_eq_ok_iff (hnames : sys.names = ∅) : takeHeader format sys line = .ok sys' ↔
    ∃ ps, List.Forall₂ (Declares format) (words line) ps ∧ Distinct ps ∧
      sys' = sys.nameAll ps := by
  have hfresh : ∀ p, sys.IsFresh p := by simp [IsFresh, isNamed, hnames]
  rw [takeHeader, foldlM_takeDeclaration_eq_ok_iff fun word hword => (of_mem_words hword).2]
  simp [hfresh]

/-! ## Labels -/

theorem isNamed_nameAll_iff {ps : List (String × Nat)} {i : Nat} (hnames : sys.names = ∅)
    (hps : Distinct ps) : (sys.nameAll ps).isNamed i = true ↔ Declared ps i := by
  have hnone : ∀ name, sys.index? name ≠ some i := by simp [index?, hnames]
  simp only [isNamed_iff, index?_nameAll hps, Declared, hnone, false_and, or_false]

theorem foldlM_takeLabel_eq_ok_iff (hws : ∀ word ∈ ws, ∀ c ∈ word, isBlank c = false)
    (hdeclared : ∀ i, sys.isNamed i = true ↔ declared i) :
    ws.foldlM (takeLabel s) sys = .ok sys' ↔
      ∃ indices, List.Forall₂ (fun word i => IsUnsigned word i ∧ declared i) ws indices ∧
        sys' = sys.addLabelling (.state s indices) := by
  refine foldlM_eq_ok_iff (P := fun sys₁ => ∀ i, sys₁.isNamed i = true ↔ declared i)
    (fun word hword sys₁ sys₂ hnamed => ?_) (fun sys₁ i hnamed => hnamed) hdeclared
  simp only [takeLabel, bind_eq_ok_iff, readIndex_eq_ok_iff, trim_eq_self (hws word hword)]
  constructor
  · rintro ⟨i, hi, h⟩
    split at h
    next hi' =>
      cases h
      exact ⟨i, ⟨hi, (hnamed i).1 hi'⟩, rfl⟩
    next => cases h
  · rintro ⟨i, ⟨hi, hi'⟩, rfl⟩
    refine ⟨i, hi, ?_⟩
    rw [if_pos ((hnamed i).2 hi')]
    rfl

theorem takeLabels_eq_ok_iff (hsize : sys.size = size)
    (hdeclared : ∀ i, sys.isNamed i = true ↔ declared i) :
    takeLabels sys line = .ok sys' ↔ ∃ labelling : Labelling,
      labelling.SaidBy size declared line ∧ sys' = sys.addLabelling labelling := by
  subst hsize
  have hwords : ∀ {s after sys'}, (words after).foldlM (takeLabel s) sys = .ok sys' ↔
      ∃ indices, List.Forall₂ (fun word i => IsUnsigned word i ∧ declared i) (words after) indices ∧
        sys' = sys.addLabelling (.state s indices) :=
    foldlM_takeLabel_eq_ok_iff (fun word hword => (of_mem_words hword).2) hdeclared
  constructor
  · intro h
    rw [takeLabels] at h
    split at h
    next => cases h
    next before after hcut =>
      have hsplit := cut?_eq_some_iff_splitsAt.1 hcut
      rcases startOr_eq_ok_iff.1 h with ⟨hstart, rfl⟩ | ⟨s, hs, h⟩
      · exact ⟨.start, .start hsplit hstart, rfl⟩
      · obtain ⟨indices, hindices, rfl⟩ := hwords.1 h
        exact ⟨.state s indices, .state hsplit hs hindices, rfl⟩
  · rintro ⟨labelling, hsaid, rfl⟩
    rw [takeLabels]
    cases hsaid with
    | start hsplit hstart =>
      rw [cut?_eq_some_iff_splitsAt.2 hsplit]
      exact startOr_eq_ok_iff.2 (.inl ⟨hstart, rfl⟩)
    | @state _ _ s indices hsplit hs hindices =>
      rw [cut?_eq_some_iff_splitsAt.2 hsplit]
      exact startOr_eq_ok_iff.2 (.inr ⟨s, hs, hwords.2 ⟨indices, hindices, rfl⟩⟩)

theorem takeLines_takeLabels_eq_ok_iff (hsize : sys.size = size)
    (hdeclared : ∀ i, sys.isNamed i = true ↔ declared i) :
    takeLines takeLabels number ls sys = .ok sys' ↔
      ∃ labellings, List.Forall₂ (Labelling.SaidBy size declared) ls labellings ∧
        sys' = labellings.foldl addLabelling sys := by
  rw [takeLines_eq_ok_iff]
  refine foldlM_eq_ok_iff
    (P := fun sys₁ => sys₁.size = size ∧ ∀ i, sys₁.isNamed i = true ↔ declared i)
    (fun line _ sys₁ sys₂ h => takeLabels_eq_ok_iff h.1 h.2) (fun sys₁ a h => ?_)
    ⟨hsize, hdeclared⟩
  obtain ⟨labels, heq⟩ := addLabelling_eq sys₁ a
  rw [heq]
  exact h

/-- The label text is read exactly if it holds propositions and labels, and as these. -/
theorem readLabels_eq_ok_iff : readLabels format text doc.explored = .ok sys ↔
    ∃ ps labellings,
      HasLabels { doc with propositions := ps, labellings := labellings } format text ∧
      sys = system { doc with propositions := ps, labellings := labellings } := by
  obtain ⟨hsize, -, hnames⟩ := explored_kept doc
  have hsize' : ∀ ps, (doc.explored.nameAll ps).size = doc.size :=
    fun ps => by rw [nameAll_eq, hsize]
  have hdeclared : ∀ {ps}, Distinct ps →
      ∀ i, (doc.explored.nameAll ps).isNamed i = true ↔ Declared ps i :=
    fun hps i => isNamed_nameAll_iff hnames hps
  rw [readLabels]
  constructor
  · intro h
    split at h
    next hcontent =>
      cases h
      exact ⟨[], [], ⟨[], contentLines_eq_iff.1 hcontent, .nil, .nil, .nil⟩, rfl⟩
    next header rest hcontent =>
      obtain ⟨sys₁, hheader, hrest⟩ := bind_eq_ok_iff.1 h
      obtain ⟨ps, hps, hdistinct, rfl⟩ :=
        (takeHeader_eq_ok_iff hnames).1 (takeLines_singleton.1 hheader)
      obtain ⟨labellings, hsaid, rfl⟩ :=
        (takeLines_takeLabels_eq_ok_iff (hsize' ps) (hdeclared hdistinct)).1 hrest
      exact ⟨ps, labellings,
        ⟨header :: rest, contentLines_eq_iff.1 hcontent, hps, hdistinct, hsaid⟩, rfl⟩
  · rintro ⟨ps, labellings, ⟨content, hcontent, hps, hdistinct, hsaid⟩, rfl⟩
    rw [contentLines_eq_iff.2 hcontent]
    cases content with
    | nil =>
      obtain rfl := List.forall₂_nil_left_iff.1 hps
      obtain rfl := List.forall₂_nil_left_iff.1 hsaid
      rfl
    | cons header rest =>
      have hheader : takeHeader format doc.explored header = .ok (doc.explored.nameAll ps) :=
        (takeHeader_eq_ok_iff hnames).2 ⟨ps, hps, hdistinct, rfl⟩
      exact bind_eq_ok_iff.2 ⟨_, takeLines_singleton.2 hheader,
        (takeLines_takeLabels_eq_ok_iff (hsize' ps) (hdeclared hdistinct)).2
          ⟨labellings, hsaid, rfl⟩⟩

/-! ## Both texts -/

variable {transitions labels : String}

theorem read_eq_ok_of_writtenAs (h : doc.WrittenAs format transitions labels) :
    read format transitions labels = .ok doc.system := by
  have htransitions := readTransitions_eq_ok_iff.2 ⟨doc, h.transitions, rfl⟩
  have hlabels := readLabels_eq_ok_iff.2 ⟨doc.propositions, doc.labellings, h.labels, rfl⟩
  rw [read, readFrom]
  exact bind_eq_ok_iff.2
    ⟨doc.explored, mapError_eq_ok_iff.2 htransitions, mapError_eq_ok_iff.2 hlabels⟩

theorem exists_writtenAs_of_read (h : read format transitions labels = .ok sys) :
    ∃ doc : Document, doc.WrittenAs format transitions labels := by
  rw [read, readFrom] at h
  obtain ⟨sys₁, htransitions, hlabels⟩ := bind_eq_ok_iff.1 h
  obtain ⟨doc, hdoc, rfl⟩ := readTransitions_eq_ok_iff.1 (mapError_eq_ok_iff.1 htransitions)
  obtain ⟨ps, labellings, hlabels, -⟩ := readLabels_eq_ok_iff.1 (mapError_eq_ok_iff.1 hlabels)
  exact ⟨{ doc with propositions := ps, labellings := labellings }, hdoc, hlabels⟩

/-- **Two texts are read exactly if they hold a document**, and as the system which that
document describes. -/
theorem read_accepts_documents (format : TextFormat) (transitions labels : String) :
    ((∃ sys, read format transitions labels = .ok sys) ↔
      ∃ doc : Document, doc.WrittenAs format transitions labels) ∧
    ∀ doc : Document, doc.WrittenAs format transitions labels →
      ∀ sys, read format transitions labels = .ok sys ↔ doc.Describes sys := by
  refine ⟨⟨fun ⟨sys, h⟩ => exists_writtenAs_of_read h,
    fun ⟨doc, h⟩ => ⟨doc.system, read_eq_ok_of_writtenAs h⟩⟩, fun doc h sys => ?_⟩
  obtain ⟨content, -, -, hdistinct, -⟩ := h.labels
  rw [describes_iff hdistinct, read_eq_ok_of_writtenAs h, Except.ok.injEq, eq_comm]

/-- A format in which a state is the sink and a proposition has another name. -/
def smallFormat : TextFormat := ⟨1, "p_", .ofList [("a", "b")]⟩

def smallDocument : Document where
  size := 3
  frontier := [2]
  transitions := [.start, .unknown 0, .edge 2 0]
  propositions := [("b", 7), ("c", 0)]
  labellings := [.start, .state 2 [0, 7]]

theorem smallDocument_writtenAs : smallDocument.WrittenAs smallFormat
    "-1 -> x\n0 -> 1\n+2->0 \n 2\n3\n\n" "7=p_a 0=p_c\n-1: p_a\n2: 0 7\n" := by
  have hsplit : ∀ {separator cs before after}, cut? separator cs = some (before, after) →
      SplitsAt separator cs before after := cut?_eq_some_iff_splitsAt.1
  have hsigned : ∀ {cs i}, (readInt cs).toOption = some i → IsSigned cs i :=
    fun h => readInt_eq_ok_iff.1 (toOption_eq_some_iff.1 h)
  have hunsigned : ∀ {cs n}, (readNat cs).toOption = some n → IsUnsigned cs n :=
    fun h => readNat_eq_ok_iff.1 (toOption_eq_some_iff.1 h)
  constructor
  · refine ⟨["-1 -> x".toList, "0 -> 1".toList, "+2->0 ".toList], " 2".toList, "3".toList,
      contentLines_eq_iff.1 (by decide +kernel), hunsigned (by decide +kernel), ?_, ?_⟩
    · exact .cons ⟨hsigned (by decide +kernel), by decide⟩ .nil
    · refine .cons ?_ (.cons ?_ (.cons ?_ .nil))
      · exact .start (hsplit rfl) (hsigned (by decide +kernel))
      · exact .unknown (hsplit rfl) ⟨hsigned (by decide +kernel), by decide⟩
          (hsigned (by decide +kernel))
      · exact .edge (hsplit rfl) ⟨hsigned (by decide +kernel), by decide⟩
          ⟨hsigned (by decide +kernel), by decide⟩ (by decide)
  · refine ⟨["7=p_a 0=p_c".toList, "-1: p_a".toList, "2: 0 7".toList],
      contentLines_eq_iff.1 (by decide +kernel), ?_, by unfold Distinct; decide, ?_⟩
    · refine .cons ?_ (.cons ?_ .nil)
      · exact ⟨['7'], ['a'], hsplit rfl, hunsigned (by decide +kernel), by decide,
          by decide +kernel⟩
      · exact ⟨['0'], ['c'], hsplit rfl, hunsigned (by decide +kernel), by decide,
          by decide +kernel⟩
    · refine .cons ?_ (.cons ?_ .nil)
      · exact .start (hsplit rfl) (hsigned (by decide +kernel))
      · refine .state (hsplit rfl) ⟨hsigned (by decide +kernel), by decide⟩ ?_
        exact .cons ⟨hunsigned (by decide +kernel), "c", by decide⟩
          (.cons ⟨hunsigned (by decide +kernel), "b", by decide⟩ .nil)

/-- The small document is read as what it describes. There are more states than signed
numbers in the other text, and a state that is not one of these cannot be written. -/
theorem read_accepts_documents_small :
    smallDocument.WrittenAs smallFormat
      "-1 -> x\n0 -> 1\n+2->0 \n 2\n3\n\n" "7=p_a 0=p_c\n-1: p_a\n2: 0 7\n" ∧
    (∃ sys, read smallFormat "-1 -> x\n0 -> 1\n+2->0 \n 2\n3\n\n"
      "7=p_a 0=p_c\n-1: p_a\n2: 0 7\n" = .ok sys ∧ smallDocument.Describes sys) ∧
    ¬∃ doc : Document, doc.WrittenAs smallFormat
      "9223372036854775808 -> 0\n\n18446744073709551615\n" "" := by
  have hsmall := read_accepts_documents smallFormat
    "-1 -> x\n0 -> 1\n+2->0 \n 2\n3\n\n" "7=p_a 0=p_c\n-1: p_a\n2: 0 7\n"
  obtain ⟨sys, hsys⟩ := hsmall.1.2 ⟨smallDocument, smallDocument_writtenAs⟩
  refine ⟨smallDocument_writtenAs,
    ⟨sys, hsys, (hsmall.2 smallDocument smallDocument_writtenAs sys).1 hsys⟩, fun hdoc => ?_⟩
  obtain ⟨sys, hsys⟩ := (read_accepts_documents smallFormat
    "9223372036854775808 -> 0\n\n18446744073709551615\n" "").1.2 hdoc
  have hnone : (read smallFormat "9223372036854775808 -> 0\n\n18446744073709551615\n"
      "").toOption = none := by decide +kernel
  rw [hsys] at hnone
  cases hnone

end BranchingTime.System
