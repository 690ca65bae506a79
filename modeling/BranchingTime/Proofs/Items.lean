/-
The two texts of a system as a list of items. An item is a piece of text that is checked for
itself: a number, a word, or a line that cannot be split. `items` lists them in the order in
which they are checked, with the text and the line where they stand; the last two lines of the
transition text come first. To read the two texts is to take in one item after another
(`readFrom_eq_foldlM`), so that everything about the order of errors can be said of items.
-/
import BranchingTime.Proofs.Format

namespace BranchingTime.System

open Text

/-- One of the two texts of a system. -/
inductive Half where
  | transitions
  | labels

/-- What an item consists of. A target and an index come with the number of the state that they
belong to. -/
inductive Part where
  /-- The end of the transition text, of which there are this many lines. -/
  | footer (lines : Nat)
  /-- The number of states. -/
  | count (text : List Char)
  | frontier (word : List Char)
  /-- A line without the separator that it has to have. -/
  | unsplit (line : List Char)
  /-- The state that an edge starts from, or that is labelled. -/
  | subject (text : List Char)
  | target (subject text : List Char)
  | declaration (word : List Char)
  | index (subject word : List Char)

/-- What a line is for. -/
inductive Role where
  | count
  | frontier
  | edge
  | header
  | labels

structure Item where
  half : Half
  /-- The number of the line. -/
  line : Nat
  part : Part

/-- A line, its number and what it is for. -/
structure Row where
  role : Role
  number : Nat
  line : List Char

/-- The one of two strings that is for this text. -/
def Half.select (half : Half) (transitions labels : String) : String :=
  match half with
  | .transitions => transitions
  | .labels => labels

namespace Role

def half : Role → Half
  | count | frontier | edge => .transitions
  | header | labels => .labels

/-- What has to be checked of a line, from left to right. -/
def parts : Role → List Char → List Part
  | count, line => [.count line]
  | frontier, line => (words line).map .frontier
  | edge, line =>
    match cut? ['-', '>'] line with
    | none => [.unsplit line]
    | some (before, after) => [.subject before, .target before after]
  | header, line => (words line).map .declaration
  | labels, line =>
    match cut? [':'] line with
    | none => [.unsplit line]
    | some (before, after) => .subject before :: (words after).map (.index before)

/-- Lines for one thing, numbered from the given number on. -/
def rows (role : Role) (number : Nat) (ls : List (List Char)) : List Row :=
  (ls.zipIdx number).map fun (line, number) => ⟨role, number, line⟩

end Role

def Row.items (row : Row) : List Item :=
  (row.role.parts row.line).map (⟨row.role.half, row.number, ·⟩)

/-- The lines of the transition text in the order in which they are read. -/
def transitionRows (content : List (List Char)) : List Row :=
  match content.reverse with
  | count :: frontier :: edges =>
    ⟨.count, content.length, count⟩ :: ⟨.frontier, content.length - 1, frontier⟩ ::
      Role.edge.rows 1 edges.reverse
  | _ => []

def labelRows : List (List Char) → List Row
  | [] => []
  | header :: rest => ⟨.header, 1, header⟩ :: Role.labels.rows 2 rest

/-- The end of the transition text. -/
def footer (transitions : String) : Item :=
  ⟨.transitions, (contentLines transitions).length, .footer (contentLines transitions).length⟩

/-- Everything that is checked, in order. -/
def items (transitions labels : String) : List Item :=
  footer transitions ::
    (transitionRows (contentLines transitions) ++ labelRows (contentLines labels)).flatMap Row.items

variable {format : TextFormat} {sys sys' : System} {line word : List Char} {number s : Nat}
  {ls ws : List (List Char)} {transitions labels : String} {item : Item} {row : Row}

/-! ## Where items stand -/

/-- The line of this number in the text of this half, and what it is for. -/
structure Row.Stands (row : Row) (transitions labels : String) : Prop where
  one_le : 1 ≤ row.number
  line : (lines (row.role.half.select transitions labels).toList)[row.number - 1]? = some row.line

/-- The item is at the end of the transition text, or in the line of its number. -/
def Item.Stands (item : Item) (transitions labels : String) : Prop :=
  item = footer transitions ∨ ∃ row : Row, row.Stands transitions labels ∧ item ∈ row.items

theorem getElem?_lines (text : String) {i : Nat} (h : (contentLines text)[i]? = some line) :
    (lines text.toList)[i]? = some line := by
  obtain ⟨blanks, hlines, -⟩ := contentLines_eq_iff.1 (Eq.refl (contentLines text))
  rw [hlines, List.getElem?_append_left (List.getElem?_eq_some_iff.1 h).1]
  exact h

theorem mem_rows {role : Role} (h : row ∈ role.rows number ls) :
    row.role = role ∧ number ≤ row.number ∧ ls[row.number - number]? = some row.line := by
  obtain ⟨⟨line, n⟩, hmem, rfl⟩ := List.mem_map.1 h
  obtain ⟨hle, hget⟩ := List.mk_mem_zipIdx_iff_le_and_getElem?_sub.1 hmem
  exact ⟨rfl, hle, hget⟩

theorem stands_of_mem_transitionRows (h : row ∈ transitionRows (contentLines transitions)) :
    row.Stands transitions labels := by
  unfold transitionRows at h
  split at h
  next count frontier edges hreverse =>
    have hcontent : contentLines transitions = edges.reverse ++ [frontier, count] := by
      rw [List.reverse_eq_iff.1 hreverse]
      simp
    rcases List.mem_cons.1 h with rfl | h
    · exact ⟨by simp [hcontent], getElem?_lines transitions (by simp [hcontent])⟩
    rcases List.mem_cons.1 h with rfl | h
    · exact ⟨by simp [hcontent], getElem?_lines transitions (by simp [hcontent])⟩
    · obtain ⟨hrole, hle, hget⟩ := mem_rows h
      refine ⟨hle, ?_⟩
      rw [hrole]
      refine getElem?_lines transitions ?_
      rw [hcontent, List.getElem?_append_left (List.getElem?_eq_some_iff.1 hget).1]
      exact hget
  next => cases h

theorem stands_of_mem_labelRows (h : row ∈ labelRows (contentLines labels)) :
    row.Stands transitions labels := by
  unfold labelRows at h
  split at h
  next => cases h
  next header rest hcontent =>
    rcases List.mem_cons.1 h with rfl | h
    · exact ⟨Nat.le_refl 1, getElem?_lines labels (by simp [hcontent])⟩
    · obtain ⟨hrole, hle, hget⟩ := mem_rows h
      refine ⟨by omega, ?_⟩
      rw [hrole]
      refine getElem?_lines labels ?_
      have hnumber : row.number - 1 = row.number - 2 + 1 := by omega
      rw [hcontent, hnumber, List.getElem?_cons_succ]
      exact hget

theorem stands_of_mem_items (h : item ∈ items transitions labels) :
    item.Stands transitions labels := by
  rcases List.mem_cons.1 h with hfooter | hrows
  · exact .inl hfooter
  · obtain ⟨row, hrow, hitem⟩ := List.mem_flatMap.1 hrows
    refine .inr ⟨row, ?_, hitem⟩
    rcases List.mem_append.1 hrow with hrow | hrow
    · exact stands_of_mem_transitionRows hrow
    · exact stands_of_mem_labelRows hrow

/-! ## One item after another -/

/-- Take in what an item says. A target or an index has nothing to say about the start. -/
def takePart (format : TextFormat) (sys : System) : Part → Except LineProblem System
  | .footer lines => if lines < 2 then .error .missingFooter else .ok sys
  | .count text => do
    let size ← readIndex text
    return { sys with size := max sys.size size }
  | .frontier word => do return sys.addFrontier (← readState sys.size word)
  | .unsplit line => .error (.unexpectedToken (.ofList line))
  | .subject text => do
    if (← readSigned (trim text)) = -1 then return sys
    let _ ← readState sys.size (trim text)
    return sys
  | .target subject text =>
    match (readState sys.size (trim subject)).toOption with
    | none => .ok sys
    | some source => do
      if (← readSigned (trim text)) = format.sink then
        return (sys.explore source).addFrontier source
      else
        return sys.addEdge source (← readState sys.size (trim text))
  | .declaration word => takeDeclaration format sys word
  | .index subject word =>
    match (readState sys.size (trim subject)).toOption with
    | none => .ok sys
    | some state => takeLabel state sys word

/-- The item is wrong in this way, in the file of this name. -/
def Item.error (item : Item) (transitionFile labelFile : String) (problem : LineProblem) :
    ReadError :=
  .malformed (item.half.select transitionFile labelFile) ⟨item.line, problem⟩

def takeItem (format : TextFormat) (transitionFile labelFile : String) (sys : System)
    (item : Item) : Except ReadError System :=
  (takePart format sys item.part).mapError (item.error transitionFile labelFile)

theorem takeFrontier_eq_foldlM (format : TextFormat) (sys : System) (line : List Char) :
    takeFrontier sys line = (Role.frontier.parts line).foldlM (takePart format) sys := by
  rw [Role.parts, List.foldlM_map]
  rfl

theorem takeHeader_eq_foldlM (format : TextFormat) (sys : System) (line : List Char) :
    takeHeader format sys line = (Role.header.parts line).foldlM (takePart format) sys := by
  rw [Role.parts, List.foldlM_map]
  rfl

/-- A line is about the start, or about a state with which reading goes on. What follows its
subject is then taken in for that state, or passed over. -/
theorem startOr_eq_bind {text : List Char} {f : Nat → Except LineProblem System}
    {k : System → Except LineProblem System}
    (hnone : (readState sys.size (trim text)).toOption = none → k sys = .ok sys)
    (hsome : ∀ s, (readState sys.size (trim text)).toOption = some s → k sys = f s) :
    (readSigned (trim text) >>= fun i =>
      if i = -1 then pure sys else readState sys.size (trim text) >>= f) =
    takePart format sys (.subject text) >>= k := by
  rw [takePart]
  cases hsigned : readSigned (trim text) with
  | error problem => rfl
  | ok i =>
    by_cases hi : i = -1
    · subst hi
      have hstart : (readState sys.size (trim text)).toOption = none := by
        rw [readState, hsigned]
        rfl
      exact (hnone hstart).symm
    · simp only [bind, Except.bind, if_neg hi]
      cases hstate : readState sys.size (trim text) with
      | error problem => rfl
      | ok s => exact (hsome s (by rw [hstate]; rfl)).symm

theorem takeEdge_eq_foldlM (format : TextFormat) (sys : System) (line : List Char) :
    takeEdge format.sink sys line = (Role.edge.parts line).foldlM (takePart format) sys := by
  rw [takeEdge, Role.parts]
  cases hcut : cut? ['-', '>'] line with
  | none => rfl
  | some parts =>
    obtain ⟨before, after⟩ := parts
    simp only [List.foldlM_cons, List.foldlM_nil, bind_pure]
    refine startOr_eq_bind (fun hnone => ?_) (fun s hsome => ?_)
    · rw [takePart, hnone]
    · rw [takePart, hsome]

theorem takeLabel_size (h : takeLabel s sys word = .ok sys') : sys'.size = sys.size := by
  obtain ⟨index, -, h⟩ := bind_eq_ok_iff.1 h
  split at h
  next =>
    cases h
    rfl
  next => cases h

/-- The indices of the start are passed over. -/
theorem foldlM_index_of_none {subject : List Char}
    (h : (readState sys.size (trim subject)).toOption = none) :
    (ws.map (.index subject)).foldlM (takePart format) sys = .ok sys := by
  induction ws with
  | nil => rfl
  | cons word ws ih =>
    rw [List.map_cons, List.foldlM_cons, takePart, h]
    exact ih

theorem foldlM_index_of_some {subject : List Char}
    (h : (readState sys.size (trim subject)).toOption = some s) :
    (ws.map (.index subject)).foldlM (takePart format) sys = ws.foldlM (takeLabel s) sys := by
  induction ws generalizing sys with
  | nil => rfl
  | cons word ws ih =>
    rw [List.map_cons, List.foldlM_cons, List.foldlM_cons, takePart, h]
    dsimp only
    cases hword : takeLabel s sys word with
    | error problem => rfl
    | ok sys₁ => exact ih (by rw [takeLabel_size hword]; exact h)

theorem takeLabels_eq_foldlM (format : TextFormat) (sys : System) (line : List Char) :
    takeLabels sys line = (Role.labels.parts line).foldlM (takePart format) sys := by
  rw [takeLabels, Role.parts]
  cases hcut : cut? [':'] line with
  | none => rfl
  | some parts =>
    obtain ⟨before, after⟩ := parts
    simp only [List.foldlM_cons]
    exact startOr_eq_bind foldlM_index_of_none (fun s => foldlM_index_of_some)

/-- What the items of a line do is what the line does. -/
theorem foldlM_items (transitionFile labelFile : String) (row : Row) (sys : System) :
    row.items.foldlM (takeItem format transitionFile labelFile) sys =
      ((row.role.parts row.line).foldlM (takePart format) sys).mapError fun problem =>
        .malformed (row.role.half.select transitionFile labelFile) ⟨row.number, problem⟩ := by
  rw [mapError_foldlM, Row.items, List.foldlM_map]
  rfl

theorem takeLines_eq_foldlM {take : System → List Char → Except LineProblem System} {role : Role}
    (htake : ∀ sys line, take sys line = (role.parts line).foldlM (takePart format) sys)
    (transitionFile labelFile : String) (number : Nat) (ls : List (List Char)) (sys : System) :
    (takeLines take number ls sys).mapError (.malformed (role.half.select transitionFile labelFile)) =
      ((role.rows number ls).flatMap Row.items).foldlM
        (takeItem format transitionFile labelFile) sys := by
  induction ls generalizing number sys with
  | nil => rfl
  | cons line ls ih =>
    have hrows : role.rows number (line :: ls) =
        ⟨role, number, line⟩ :: role.rows (number + 1) ls := rfl
    rw [hrows, List.flatMap_cons, List.foldlM_append, foldlM_items, ← htake, takeLines]
    cases take sys line with
    | error problem => rfl
    | ok sys₁ => exact ih (number + 1) sys₁

theorem foldlM_count (transitionFile labelFile : String) (number : Nat) (count : List Char) :
    ((Role.count.rows number [count]).flatMap Row.items).foldlM
        (takeItem format transitionFile labelFile) (unexplored 0) =
      (do
        let size ← (readIndex count).mapError fun problem =>
          .malformed transitionFile ⟨number, problem⟩
        return unexplored size) := by
  have hrows : (Role.count.rows number [count]).flatMap Row.items =
      [⟨.transitions, number, .count count⟩] := rfl
  rw [hrows, List.foldlM_cons, takeItem, takePart]
  cases readIndex count with
  | error problem => rfl
  | ok size =>
    have hsize : max (unexplored 0).size size = size := Nat.zero_max size
    show Except.ok { unexplored 0 with size := max (unexplored 0).size size } = _
    rw [hsize]
    rfl

theorem readTransitions_eq_foldlM (format : TextFormat) (transitionFile labelFile : String) :
    (readTransitions format.sink transitions).mapError (.malformed transitionFile) =
      (footer transitions :: (transitionRows (contentLines transitions)).flatMap Row.items).foldlM
        (takeItem format transitionFile labelFile) (unexplored 0) := by
  rw [List.foldlM_cons, takeItem, footer, takePart]
  simp only [readTransitions]
  split
  next count frontier edges hreverse =>
    have hlength : ¬(contentLines transitions).length < 2 := by
      rw [← List.length_reverse, hreverse]
      simp
    have hrows : transitionRows (contentLines transitions) =
        Role.count.rows (contentLines transitions).length [count] ++
          (Role.frontier.rows ((contentLines transitions).length - 1) [frontier] ++
            Role.edge.rows 1 edges.reverse) := by
      rw [transitionRows, hreverse]
      rfl
    rw [if_neg hlength, hrows, List.flatMap_append, List.flatMap_append]
    show _ = List.foldlM (takeItem format transitionFile labelFile) (unexplored 0) _
    rw [List.foldlM_append, foldlM_count, bind_assoc, mapError_bind, mapError_mapError]
    simp only [pure_bind, mapError_bind, List.foldlM_append,
      ← takeLines_eq_foldlM (takeFrontier_eq_foldlM format),
      ← takeLines_eq_foldlM (takeEdge_eq_foldlM format)]
    rfl
  next hshort =>
    have hlength : (contentLines transitions).length < 2 := by
      rw [← List.length_reverse]
      cases hreverse : (contentLines transitions).reverse with
      | nil => simp
      | cons count rest =>
        cases rest with
        | nil => simp
        | cons frontier edges => exact absurd hreverse (hshort count frontier edges)
    rw [if_pos hlength]
    rfl

theorem readLabels_eq_foldlM (format : TextFormat) (transitionFile labelFile : String)
    (sys : System) :
    (readLabels format labels sys).mapError (.malformed labelFile) =
      ((labelRows (contentLines labels)).flatMap Row.items).foldlM
        (takeItem format transitionFile labelFile) sys := by
  rw [readLabels]
  cases contentLines labels with
  | nil => rfl
  | cons header rest =>
    have hrows : labelRows (header :: rest) =
        Role.header.rows 1 [header] ++ Role.labels.rows 2 rest := rfl
    rw [hrows, List.flatMap_append, List.foldlM_append,
      ← takeLines_eq_foldlM (takeHeader_eq_foldlM format)]
    simp only [← takeLines_eq_foldlM (takeLabels_eq_foldlM format)]
    exact mapError_bind _ _ _

/-- **Reading is taking in one item after another.** -/
theorem readFrom_eq_foldlM (format : TextFormat)
    (transitionFile transitions labelFile labels : String) :
    readFrom format transitionFile transitions labelFile labels =
      (items transitions labels).foldlM (takeItem format transitionFile labelFile)
        (unexplored 0) := by
  rw [readFrom, items, List.flatMap_append, ← List.cons_append, List.foldlM_append,
    readTransitions_eq_foldlM format transitionFile labelFile]
  simp only [readLabels_eq_foldlM format transitionFile labelFile]

end BranchingTime.System
