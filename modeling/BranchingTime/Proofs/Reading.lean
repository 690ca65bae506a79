/-
What reading can do to a system. Whatever the two texts are, each piece of them that
is taken in adds one thing to the system: a state of the frontier, an edge, a name or
a label (`Take`). What is read is therefore built from an unexplored system in such
steps (`exists_takes_of_read`), and what every step keeps holds of all systems that
are read.
-/
import BranchingTime.System.Reading
import BranchingTime.Proofs.Building
import BranchingTime.Proofs.Text
import Mathlib.Logic.Relation

namespace BranchingTime.System

open Text

variable {format : TextFormat} {sys sys' : System} {line content word : List Char}
  {ls ws : List (List Char)} {size s number : Nat} {i : Int}

/-! ## Steps -/

/-- The state is one of the system, and small enough to be read. -/
def Readable (sys : System) (s : Nat) : Prop := s < sys.size ∧ s ≤ largestInt

/-- Give a proposition its index. -/
def nameAs (sys : System) (name : String) (index : Nat) : System :=
  { sys with names := sys.names.insert name index }

/-- The name stands for one that can be written in a text: behind the marker, without
a blank. -/
def Declarable (format : TextFormat) (name : String) : Prop :=
  ∃ raw, raw ≠ [] ∧ (∀ c ∈ format.marker.toList ++ raw, isBlank c = false) ∧
    name = format.aliases.apply (.ofList raw)

/-- Something is read and added to the system. -/
inductive Take (format : TextFormat) (sys : System) : System → Prop where
  | frontier {s : Nat} (hs : sys.Readable s) : Take format sys (sys.addFrontier s)
  | unknownEdge {source : Nat} (hsource : sys.Readable source) :
    Take format sys ((sys.explore source).addFrontier source)
  | edge {source target : Nat} (hsource : sys.Readable source) (htarget : sys.Readable target)
    (hsink : (target : Int) ≠ format.sink) : Take format sys (sys.addEdge source target)
  | name {name : String} {index : Nat} (hname : Declarable format name)
    (hindex : sys.isNamed index = false) (hnew : name ∉ sys.names) :
    Take format sys (sys.nameAs name index)
  | label {index s : Nat} (hindex : sys.isNamed index = true) (hs : sys.Readable s) :
    Take format sys (sys.addLabel index s)

/-- Any number of things are read, one after another. -/
abbrev Takes (format : TextFormat) : System → System → Prop := Relation.ReflTransGen (Take format)

theorem Take.size_eq (h : Take format sys sys') : sys'.size = sys.size := by
  cases h <;> rfl

theorem Takes.size_eq (h : Takes format sys sys') : sys'.size = sys.size := by
  induction h with
  | refl => rfl
  | tail _ hstep ih => rw [hstep.size_eq, ih]

/-! ## Pieces of text -/

theorem readSigned_le (h : readSigned content = .ok i) : i ≤ largestInt :=
  readInt_le (mapError_eq_ok_iff.1 h)

theorem readState_eq_ok_iff :
    readState size content = .ok s ↔ readSigned content = .ok s ∧ s < size := by
  rw [readState, bind_eq_ok_iff]
  constructor
  · rintro ⟨i, hread, hi⟩
    split at hi
    next hrange =>
      cases hi
      have hnat : (i.toNat : Int) = i := Int.toNat_of_nonneg hrange.1
      exact ⟨hnat.symm ▸ hread, by omega⟩
    next => cases hi
  · rintro ⟨hread, hlt⟩
    refine ⟨s, hread, ?_⟩
    rw [if_pos ⟨Int.natCast_nonneg s, Int.ofNat_lt.2 hlt⟩]
    rfl

theorem readable_of_readState (h : readState sys.size content = .ok s) : sys.Readable s := by
  obtain ⟨hread, hlt⟩ := readState_eq_ok_iff.1 h
  exact ⟨hlt, Int.ofNat_le.1 (readSigned_le hread)⟩

/-- Whatever a line or a word does step by step, all of them do. -/
theorem foldlM_takes {take : System → List Char → Except LineProblem System}
    (htake : ∀ word ∈ ws, ∀ sys₁ sys₂, sys₁.size = sys.size → take sys₁ word = .ok sys₂ →
      Takes format sys₁ sys₂) (h : ws.foldlM take sys = .ok sys') : Takes format sys sys' := by
  induction ws generalizing sys with
  | nil => cases h; exact .refl
  | cons word ws ih =>
    rw [List.foldlM_cons] at h
    obtain ⟨sys₁, hword, hws⟩ := bind_eq_ok_iff.1 h
    have hfirst := htake word List.mem_cons_self sys sys₁ rfl hword
    refine hfirst.trans (ih (fun word hmem sys₂ sys₃ hsize => ?_) hws)
    exact htake word (List.mem_cons_of_mem _ hmem) sys₂ sys₃ (hsize.trans hfirst.size_eq)

theorem takeLines_takes {take : System → List Char → Except LineProblem System}
    (htake : ∀ sys₁ line sys₂, take sys₁ line = .ok sys₂ → Takes format sys₁ sys₂)
    (h : takeLines take number ls sys = .ok sys') : Takes format sys sys' := by
  induction ls generalizing number sys with
  | nil => cases h; exact .refl
  | cons line ls ih =>
    rw [takeLines] at h
    split at h
    next => cases h
    next sys₁ hline => exact (htake sys line sys₁ hline).trans (ih h)

theorem takeFrontier_takes (h : takeFrontier sys line = .ok sys') : Takes format sys sys' := by
  refine foldlM_takes (fun word _ sys₁ sys₂ _ hword => ?_) h
  obtain ⟨s, hs, heq⟩ := bind_eq_ok_iff.1 hword
  cases heq
  exact .single (.frontier (readable_of_readState hs))

theorem takeEdge_takes (h : takeEdge format.sink sys line = .ok sys') : Takes format sys sys' := by
  rw [takeEdge] at h
  split at h
  next => cases h
  next before after _ =>
    obtain ⟨i, -, h⟩ := bind_eq_ok_iff.1 h
    split at h
    next => cases h; exact .refl
    next =>
      obtain ⟨source, hsource, h⟩ := bind_eq_ok_iff.1 h
      obtain ⟨j, hj, h⟩ := bind_eq_ok_iff.1 h
      split at h
      next =>
        cases h
        exact .single (.unknownEdge (readable_of_readState hsource))
      next hsink =>
        obtain ⟨target, htarget, heq⟩ := bind_eq_ok_iff.1 h
        cases heq
        -- the target is the number that was compared with the sink
        obtain rfl : j = target := by
          cases hj.symm.trans (readState_eq_ok_iff.1 htarget).1
          rfl
        exact .single (.edge (readable_of_readState hsource) (readable_of_readState htarget) hsink)

/-- A name is read where a text goes on after the marker. -/
theorem readName?_eq_some_iff {name : String} : readName? format content = some name ↔
    ∃ raw, content = format.marker.toList ++ raw ∧ raw ≠ [] ∧
      name = format.aliases.apply (.ofList raw) := by
  rw [readName?]
  constructor
  · intro h
    split at h
    next hmarker =>
      obtain ⟨raw, rfl⟩ := List.isPrefixOf_iff_prefix.1 hmarker
      rw [← String.length_toList, List.drop_left] at h
      split at h
      next => cases h
      next hraw =>
        cases h
        exact ⟨raw, rfl, hraw, rfl⟩
    next => cases h
  · rintro ⟨raw, rfl, hraw, rfl⟩
    rw [if_pos (List.isPrefixOf_iff_prefix.2 (List.prefix_append _ _)), ← String.length_toList,
      List.drop_left]
    cases raw with
    | nil => exact absurd rfl hraw
    | cons c raw => rfl

theorem declarable_of_readName? {name : String} (hcontent : ∀ c ∈ content, isBlank c = false)
    (h : readName? format content = some name) : Declarable format name := by
  obtain ⟨raw, rfl, hraw, hname⟩ := readName?_eq_some_iff.1 h
  exact ⟨raw, hraw, hcontent, hname⟩

theorem takeDeclaration_takes (hword : ∀ c ∈ word, isBlank c = false)
    (h : takeDeclaration format sys word = .ok sys') : Takes format sys sys' := by
  rw [takeDeclaration] at h
  split at h
  next => cases h
  next before after hcut =>
    obtain ⟨index, -, h⟩ := bind_eq_ok_iff.1 h
    split at h
    next => cases h
    next name hname =>
      have hafter : ∀ c ∈ after, isBlank c = false := by
        intro c hc
        refine hword c ?_
        rw [eq_append_of_cut? hcut]
        exact List.mem_append_right _ hc
      dsimp only at h
      split at h
      next => cases h
      next hindex =>
        split at h
        next => cases h
        next hnew =>
          cases h
          exact .single (.name (declarable_of_readName? hafter hname) (by simpa using hindex) hnew)

theorem takeHeader_takes (h : takeHeader format sys line = .ok sys') : Takes format sys sys' :=
  foldlM_takes (fun _ hmem _ _ _ hword => takeDeclaration_takes (of_mem_words hmem).2 hword) h

theorem takeLabels_takes (h : takeLabels sys line = .ok sys') : Takes format sys sys' := by
  rw [takeLabels] at h
  split at h
  next => cases h
  next before after _ =>
    obtain ⟨i, -, h⟩ := bind_eq_ok_iff.1 h
    split at h
    next => cases h; exact .refl
    next =>
      obtain ⟨s, hs, h⟩ := bind_eq_ok_iff.1 h
      have hstate := readable_of_readState hs
      refine foldlM_takes (fun word _ sys₁ sys₂ hsize hword => ?_) h
      obtain ⟨index, -, hword⟩ := bind_eq_ok_iff.1 hword
      split at hword
      next hindex =>
        cases hword
        exact .single (.label hindex ⟨hsize ▸ hstate.1, hstate.2⟩)
      next => cases hword

/-! ## Both texts -/

theorem exists_takes_of_readTransitions {text : String}
    (h : readTransitions format.sink text = .ok sys) :
    ∃ size, Takes format (unexplored size) sys := by
  simp only [readTransitions] at h
  split at h
  next count frontier edges _ =>
    obtain ⟨size, -, h⟩ := bind_eq_ok_iff.1 h
    obtain ⟨sys₁, hfrontier, hedges⟩ := bind_eq_ok_iff.1 h
    have hfirst : Takes format (unexplored size) sys₁ :=
      takeLines_takes (fun _ _ _ => takeFrontier_takes) hfrontier
    exact ⟨size, hfirst.trans (takeLines_takes (fun _ _ _ => takeEdge_takes) hedges)⟩
  next => cases h

theorem readLabels_takes {text : String} (h : readLabels format text sys = .ok sys') :
    Takes format sys sys' := by
  rw [readLabels] at h
  split at h
  next => cases h; exact .refl
  next header rest _ =>
    obtain ⟨sys₁, hheader, hrest⟩ := bind_eq_ok_iff.1 h
    exact (takeLines_takes (fun _ _ _ => takeHeader_takes) hheader).trans
      (takeLines_takes (fun _ _ _ => takeLabels_takes) hrest)

/-- **What is read has been taken in step by step.** -/
theorem exists_takes_of_read {transitions labels : String}
    (h : read format transitions labels = .ok sys) :
    ∃ size, Takes format (unexplored size) sys := by
  rw [read, readFrom] at h
  obtain ⟨sys₁, htransitions, hlabels⟩ := bind_eq_ok_iff.1 h
  obtain ⟨size, hfirst⟩ := exists_takes_of_readTransitions (mapError_eq_ok_iff.1 htransitions)
  exact ⟨size, hfirst.trans (readLabels_takes (mapError_eq_ok_iff.1 hlabels))⟩

end BranchingTime.System
