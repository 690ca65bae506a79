/-
The first violation of the text format. Each item of the two texts is wrong or not for itself,
given the items before it: a number has to be one, a state has to be below a number of states
that was read before, an index has to be declared, and declarations must not collide
(`Violates`). The error that reading reports is the first of these violations, with the text and
the line where the item stands, whatever comes after it.

Reading takes in one item after another, so all there is to show is that a single item is refused
exactly if it violates the format, in a state that knows of the items before it what they said
(`Collected`).
-/
import BranchingTime.Proofs.Items

namespace BranchingTime

/-- What is wrong with a line, apart from the text that is wrong. -/
inductive LineProblem.Kind where
  | unexpectedToken
  | invalidNumber
  | stateOutOfRange
  | unknownProposition
  | repeatedProposition
  | missingFooter
deriving DecidableEq

def LineProblem.kind : LineProblem → Kind
  | unexpectedToken _ => .unexpectedToken
  | invalidNumber _ _ => .invalidNumber
  | stateOutOfRange _ _ => .stateOutOfRange
  | unknownProposition _ => .unknownProposition
  | repeatedProposition _ => .repeatedProposition
  | missingFooter => .missingFooter

namespace System

open Text Document

variable {format : TextFormat} {sys sys' : System} {before xs : List Item} {item : Item}
  {part : Part} {kind : LineProblem.Kind} {text word content : List Char} {i : Int}
  {size index s : Nat} {name : String} {α β : Type} {transitions labels : String}

/-! ## Items that are wrong -/

/-- Some number of states that was read is above this number. -/
def InRange (before : List Item) (i : Int) : Prop :=
  ∃ item ∈ before, ∃ text n, item.part = .count text ∧ IsUnsigned (trim text) n ∧ 0 ≤ i ∧ i < n

/-- The proposition was declared. -/
def DeclaredAs (format : TextFormat) (before : List Item) (name : String) (index : Nat) : Prop :=
  ∃ item ∈ before, ∃ word, item.part = .declaration word ∧ Declares format word (name, index)

/-- The text is the number of a state. -/
def NamesState (before : List Item) (text : List Char) : Prop :=
  ∃ i, IsSigned (trim text) i ∧ InRange before i

/-- The text should be the number of a state, but is not. -/
inductive StateFault (before : List Item) (text : List Char) : LineProblem.Kind → Prop where
  | notNumber (h : ∀ i, ¬IsSigned (trim text) i) : StateFault before text .invalidNumber
  | notState {i : Int} (hi : IsSigned (trim text) i) (h : ¬InRange before i) :
    StateFault before text .stateOutOfRange

/-- The word should be the index of a proposition, but is not. -/
inductive IndexFault (format : TextFormat) (before : List Item) (word : List Char) :
    LineProblem.Kind → Prop where
  | notNumber (h : ∀ index, ¬IsUnsigned (trim word) index) :
    IndexFault format before word .invalidNumber
  | notDeclared {index : Nat} (hindex : IsUnsigned (trim word) index)
    (h : ∀ name, ¬DeclaredAs format before name index) :
    IndexFault format before word .unknownProposition

/-- The word should declare a new proposition, but does not. What comes first here is found
first. -/
inductive DeclarationFault (format : TextFormat) (before : List Item) (word : List Char) :
    LineProblem.Kind → Prop where
  | unsplit (h : ∀ left right, ¬SplitsAt ['='] word left right) :
    DeclarationFault format before word .unexpectedToken
  | notNumber {left right : List Char} (hsplit : SplitsAt ['='] word left right)
    (h : ∀ index, ¬IsUnsigned left index) : DeclarationFault format before word .invalidNumber
  | notName {left right : List Char} {index : Nat} (hsplit : SplitsAt ['='] word left right)
    (hindex : IsUnsigned left index)
    (h : ∀ raw, raw ≠ [] → right ≠ format.marker.toList ++ raw) :
    DeclarationFault format before word .unexpectedToken
  | sameIndex {name other : String} {index : Nat} (hword : Declares format word (name, index))
    (h : DeclaredAs format before other index) :
    DeclarationFault format before word .unexpectedToken
  | sameName {name : String} {index other : Nat} (hword : Declares format word (name, index))
    (hindex : ∀ other, ¬DeclaredAs format before other index)
    (h : DeclaredAs format before name other) :
    DeclarationFault format before word .repeatedProposition

/-- An item is wrong in some way after those before it. The start is no state but may stand
where states do, and what belongs to it is not looked at. -/
def Violates (format : TextFormat) (before : List Item) : Part → LineProblem.Kind → Prop
  | .footer lines, kind => lines < 2 ∧ kind = .missingFooter
  | .count text, kind => (∀ n, ¬IsUnsigned (trim text) n) ∧ kind = .invalidNumber
  | .frontier word, kind => StateFault before word kind
  | .unsplit _, kind => kind = .unexpectedToken
  | .subject text, kind => ¬IsSigned (trim text) (-1) ∧ StateFault before text kind
  | .target subject text, kind =>
    NamesState before subject ∧ ¬IsSigned (trim text) format.sink ∧ StateFault before text kind
  | .declaration word, kind => DeclarationFault format before word kind
  | .index subject word, kind => NamesState before subject ∧ IndexFault format before word kind

/-- No item is wrong after those before it. -/
def Faultless (format : TextFormat) (xs : List Item) : Prop :=
  ∀ before item after, xs = before ++ item :: after →
    ∀ kind, ¬Violates format before item.part kind

/-! ## Failures of readers -/

/-- The reader reports a problem of this kind. -/
def Fails (x : Except LineProblem α) (kind : LineProblem.Kind) : Prop :=
  ∃ problem, x = .error problem ∧ problem.kind = kind

@[simp]
theorem not_fails_ok (a : α) : ¬Fails (.ok a) kind := by
  rintro ⟨problem, h, -⟩
  cases h

@[simp]
theorem fails_error {problem : LineProblem} :
    Fails (.error problem : Except LineProblem α) kind ↔ problem.kind = kind := by
  simp [Fails]

theorem fails_bind {x : Except LineProblem α} {f : α → Except LineProblem β} :
    Fails (x >>= f) kind ↔ Fails x kind ∨ ∃ a, x = .ok a ∧ Fails (f a) kind := by
  cases x with
  | error problem => simp [Fails, bind, Except.bind]
  | ok a => simp [Fails, bind, Except.bind]

/-- A text of which no number can be read is the only thing wrong with a number. -/
theorem fails_invalidNumber {x : Except IntegerError α} {content : String} :
    Fails (x.mapError (.invalidNumber content)) kind ↔
      (∀ a, x ≠ .ok a) ∧ .invalidNumber = kind := by
  cases x with
  | error cause => simp [Fails, mapError_eq_error_iff, LineProblem.kind]
  | ok a => simp [Fails, mapError_eq_error_iff]

theorem fails_readIndex : Fails (readIndex content) kind ↔
    (∀ n, ¬IsUnsigned (trim content) n) ∧ .invalidNumber = kind := by
  simp only [readIndex, fails_invalidNumber, ← readNat_eq_ok_iff, ne_eq]

theorem fails_readSigned : Fails (readSigned content) kind ↔
    (∀ i, ¬IsSigned (trim content) i) ∧ .invalidNumber = kind := by
  simp only [readSigned, fails_invalidNumber, ← readInt_eq_ok_iff, ne_eq]

theorem fails_readState : Fails (readState size content) kind ↔
    (∀ i, ¬IsSigned (trim content) i) ∧ .invalidNumber = kind ∨
      ∃ i, IsSigned (trim content) i ∧ ¬(0 ≤ i ∧ i < size) ∧ .stateOutOfRange = kind := by
  simp only [readState, fails_bind, fails_readSigned, readSigned_eq_ok_iff]
  refine or_congr_right (exists_congr fun i => and_congr_right fun _ => ?_)
  by_cases hi : 0 ≤ i ∧ i < size
  · simp [hi, pure, Except.pure]
  · simp [hi, throw, throwThe, MonadExceptOf.throw, LineProblem.kind]

theorem fails_readState_trim :
    Fails (readState size (trim content)) kind ↔ Fails (readState size content) kind := by
  simp only [fails_readState, trim_trim]

/-- A number that is exempt is not looked at any more, and every other one has to be a state. -/
theorem fails_unless {exempt : Int} {a : α} {f : Nat → α} :
    Fails (readSigned (trim text) >>= fun i =>
      if i = exempt then pure a else readState size (trim text) >>= fun s => pure (f s)) kind ↔
    ¬IsSigned (trim text) exempt ∧ Fails (readState size text) kind := by
  by_cases hexempt : IsSigned (trim text) exempt
  · simp [readSigned_trim_eq_ok_iff.2 hexempt, hexempt, bind, Except.bind, pure, Except.pure]
  · rw [and_iff_right hexempt, ← fails_readState_trim]
    cases hsigned : readSigned (trim text) with
    | error problem =>
      rw [readState, hsigned]
      show Fails (.error problem : Except LineProblem α) kind ↔
        Fails (.error problem : Except LineProblem Nat) kind
      rw [fails_error, fails_error]
    | ok i =>
      have hne : i ≠ exempt := by
        rintro rfl
        exact hexempt (readSigned_trim_eq_ok_iff.1 hsigned)
      show Fails (if i = exempt then _ else _) kind ↔ _
      rw [if_neg hne, fails_bind]
      simp [pure, Except.pure]

theorem readName?_eq_none (h : ∀ raw, raw ≠ [] → content ≠ format.marker.toList ++ raw) :
    readName? format content = none := by
  rw [Option.eq_none_iff_forall_ne_some]
  intro name hname
  obtain ⟨raw, hcontent, hraw, -⟩ := readName?_eq_some_iff.1 hname
  exact h raw hraw hcontent

/-! ## What is known of earlier items -/

/-- The system has as many states as was said, and the propositions that were declared. -/
structure Collected (format : TextFormat) (before : List Item) (sys : System) : Prop where
  inRange_iff : ∀ i, InRange before i ↔ 0 ≤ i ∧ i < sys.size
  declaredAs_iff : ∀ name index, DeclaredAs format before name index ↔ sys.index? name = some index

theorem inRange_concat : InRange (before ++ [item]) i ↔
    InRange before i ∨
      ∃ text n, item.part = .count text ∧ IsUnsigned (trim text) n ∧ 0 ≤ i ∧ i < n := by
  simp [InRange, or_and_right, exists_or]

theorem declaredAs_concat : DeclaredAs format (before ++ [item]) name index ↔
    DeclaredAs format before name index ∨
      ∃ word, item.part = .declaration word ∧ Declares format word (name, index) := by
  simp [DeclaredAs, or_and_right, exists_or]

theorem Declares.eq {p q : String × Nat} (h : Declares format word p)
    (h' : Declares format word q) : p = q := by
  obtain ⟨left, raw, hsplit, hindex, -, hname⟩ := h
  obtain ⟨left', raw', hsplit', hindex', -, hname'⟩ := h'
  rw [← cut?_eq_some_iff_splitsAt] at hsplit hsplit'
  rw [← readNat_eq_ok_iff] at hindex hindex'
  obtain ⟨rfl, hright⟩ := Prod.mk.inj (Option.some.inj (hsplit.symm.trans hsplit'))
  obtain rfl := List.append_cancel_left hright
  exact Prod.ext (hname.trans hname'.symm) (Except.ok.inj (hindex.symm.trans hindex'))

/-- A system that comes out has the same states and propositions as before. -/
def Keeps (sys : System) (x : Except LineProblem System) : Prop :=
  ∀ sys', x = .ok sys' → sys'.size = sys.size ∧ sys'.names = sys.names

theorem keeps_ok (hsize : sys'.size = sys.size) (hnames : sys'.names = sys.names) :
    Keeps sys (.ok sys') := by
  intro sys₁ h
  cases h
  exact ⟨hsize, hnames⟩

theorem keeps_error (problem : LineProblem) : Keeps sys (.error problem) := by
  intro sys₁ h
  cases h

theorem keeps_bind {x : Except LineProblem α} {f : α → Except LineProblem System}
    (h : ∀ a, Keeps sys (f a)) : Keeps sys (x >>= f) := by
  intro sys₁ hbind
  obtain ⟨a, -, ha⟩ := bind_eq_ok_iff.1 hbind
  exact h a sys₁ ha

theorem keeps_ite {p : Prop} [Decidable p] {x y : Except LineProblem System} (hx : Keeps sys x)
    (hy : Keeps sys y) : Keeps sys (if p then x else y) := by
  split
  · exact hx
  · exact hy

/-- Only numbers of states and declarations have to do with what is right or wrong later. -/
theorem keeps_takePart (hcount : ∀ text, part ≠ .count text)
    (hdeclaration : ∀ word, part ≠ .declaration word) : Keeps sys (takePart format sys part) := by
  have hsame : Keeps sys (.ok sys) := keeps_ok rfl rfl
  cases part with
  | count text => exact absurd rfl (hcount text)
  | declaration word => exact absurd rfl (hdeclaration word)
  | footer lines => exact keeps_ite (keeps_error _) hsame
  | frontier word => exact keeps_bind fun s => keeps_ok rfl rfl
  | unsplit line => exact keeps_error _
  | subject text => exact keeps_bind fun i => keeps_ite hsame (keeps_bind fun s => hsame)
  | target subject text =>
    rw [takePart]
    cases (readState sys.size (trim subject)).toOption with
    | none => exact hsame
    | some source =>
      exact keeps_bind fun i => keeps_ite (keeps_ok rfl rfl) (keeps_bind fun s => keeps_ok rfl rfl)
  | index subject word =>
    rw [takePart]
    cases (readState sys.size (trim subject)).toOption with
    | none => exact hsame
    | some state => exact keeps_bind fun index => keeps_ite (keeps_ok rfl rfl) (keeps_error _)

/-- A declaration is a single word. -/
def Part.Tidy (part : Part) : Prop :=
  ∀ word, part = .declaration word → ∀ c ∈ word, isBlank c = false

theorem Role.tidy_of_mem_parts {role : Role} {line : List Char} (h : part ∈ role.parts line) :
    part.Tidy := by
  rintro word rfl
  cases role with
  | header =>
    obtain ⟨word', hword, heq⟩ := List.mem_map.1 h
    cases heq
    exact (of_mem_words hword).2
  | count | frontier => simp [Role.parts] at h
  | edge | labels =>
    rw [Role.parts] at h
    split at h
    · simp at h
    · simp at h

theorem tidy_of_mem_items (h : item ∈ items transitions labels) : item.part.Tidy := by
  rcases stands_of_mem_items h with rfl | ⟨row, -, hitem⟩
  · intro word hpart
    cases hpart
  · obtain ⟨part, hpart, rfl⟩ := List.mem_map.1 hitem
    exact Role.tidy_of_mem_parts hpart

namespace Collected

theorem nil (format : TextFormat) : Collected format [] (unexplored 0) where
  inRange_iff i := by simp [InRange, unexplored]
  declaredAs_iff name index := by simp [DeclaredAs, index?, unexplored]

theorem step (h : Collected format before sys) (htidy : item.part.Tidy)
    (htake : takePart format sys item.part = .ok sys') :
    Collected format (before ++ [item]) sys' := by
  obtain ⟨half, line, part⟩ := item
  dsimp only at htidy htake
  cases part with
  | count text =>
    obtain ⟨size, hsize, htake⟩ := bind_eq_ok_iff.1 htake
    cases htake
    have hunique : ∀ {n}, IsUnsigned (trim text) n → n = size := by
      intro n hn
      exact Except.ok.inj ((readIndex_eq_ok_iff.2 hn).symm.trans hsize)
    refine ⟨fun i => ?_, fun name index => ?_⟩
    · rw [inRange_concat, h.inRange_iff]
      constructor
      · rintro (hi | ⟨_, n, heq, hn, hi⟩)
        · exact ⟨hi.1, by dsimp only; omega⟩
        · cases heq
          rw [hunique hn] at hi
          exact ⟨hi.1, by dsimp only; omega⟩
      · rintro ⟨hi, hlt⟩
        dsimp only at hlt
        by_cases hold : i < sys.size
        · exact .inl ⟨hi, hold⟩
        · exact .inr ⟨text, size, rfl, readIndex_eq_ok_iff.1 hsize, hi, by omega⟩
    · simp [declaredAs_concat, h.declaredAs_iff, System.index?]
  | declaration word =>
    obtain ⟨⟨name, index⟩, hword, hfresh, rfl⟩ :=
      (takeDeclaration_eq_ok_iff (htidy word rfl)).1 htake
    have hnew : sys.index? name = none := Std.ExtTreeMap.getElem?_eq_none hfresh.1
    refine ⟨fun i => ?_, fun name' index' => ?_⟩
    · simp [inRange_concat, h.inRange_iff, nameAs]
    · rw [declaredAs_concat, h.declaredAs_iff, index?_nameAs]
      constructor
      · rintro (hold | ⟨_, heq, hword'⟩)
        · have hne : name ≠ name' := by
            rintro rfl
            rw [hnew] at hold
            cases hold
          rw [if_neg hne]
          exact hold
        · cases heq
          cases hword.eq hword'
          exact if_pos rfl
      · intro hindex
        by_cases hname : name = name'
        · subst hname
          rw [if_pos rfl] at hindex
          cases hindex
          exact .inr ⟨word, rfl, hword⟩
        · rw [if_neg hname] at hindex
          exact .inl hindex
  | footer _ | frontier _ | unsplit _ | subject _ | target _ _ | index _ _ =>
    obtain ⟨hsize, hnames⟩ := keeps_takePart (by simp) (by simp) sys' htake
    refine ⟨fun i => ?_, fun name index => ?_⟩
    · simp [inRange_concat, h.inRange_iff, hsize]
    · simp [declaredAs_concat, h.declaredAs_iff, System.index?, hnames]

end Collected

/-! ## One item -/

variable (h : Collected format before sys)

include h

theorem stateFault_iff : StateFault before text kind ↔ Fails (readState sys.size text) kind := by
  rw [fails_readState]
  constructor
  · intro hfault
    cases hfault with
    | notNumber hnot => exact .inl ⟨hnot, rfl⟩
    | notState hi hnot => exact .inr ⟨_, hi, fun hrange => hnot ((h.inRange_iff _).2 hrange), rfl⟩
  · rintro (⟨hnot, rfl⟩ | ⟨i, hi, hnot, rfl⟩)
    · exact .notNumber hnot
    · exact .notState hi fun hrange => hnot ((h.inRange_iff i).1 hrange)

theorem namesState_iff : NamesState before text ↔
    ∃ s, (readState sys.size (trim text)).toOption = some s := by
  simp only [toOption_eq_some_iff, readState_trim_eq_ok_iff, IsState]
  constructor
  · rintro ⟨i, hi, hrange⟩
    obtain ⟨hpos, hlt⟩ := (h.inRange_iff i).1 hrange
    have hnat : (i.toNat : Int) = i := Int.toNat_of_nonneg hpos
    exact ⟨i.toNat, hnat.symm ▸ hi, by omega⟩
  · rintro ⟨s, hs, hlt⟩
    exact ⟨s, hs, (h.inRange_iff s).2 (by omega)⟩

theorem isNamed_iff_declaredAs :
    sys.isNamed index = true ↔ ∃ name, DeclaredAs format before name index := by
  simp only [isNamed_iff, h.declaredAs_iff]

theorem mem_names_iff_declaredAs :
    name ∈ sys.names ↔ ∃ index, DeclaredAs format before name index := by
  simp only [h.declaredAs_iff, System.index?, Std.ExtTreeMap.mem_iff_isSome_getElem?,
    Option.isSome_iff_exists]

theorem indexFault_iff :
    IndexFault format before word kind ↔ Fails (takeLabel s sys word) kind := by
  rw [takeLabel, fails_bind, fails_readIndex]
  constructor
  · intro hfault
    cases hfault with
    | notNumber hnot => exact .inl ⟨hnot, rfl⟩
    | notDeclared hindex hnot =>
      refine .inr ⟨_, readIndex_eq_ok_iff.2 hindex, ?_⟩
      rw [if_neg (mt (isNamed_iff_declaredAs h).1 (not_exists.2 hnot))]
      exact ⟨_, rfl, rfl⟩
  · rintro (⟨hnot, rfl⟩ | ⟨index, hindex, hfails⟩)
    · exact .notNumber hnot
    · split at hfails
      next => exact absurd hfails (not_fails_ok _)
      next hnot =>
        obtain rfl := fails_error.1 hfails
        exact .notDeclared (readIndex_eq_ok_iff.1 hindex)
          (not_exists.1 (mt (isNamed_iff_declaredAs h).2 hnot))

theorem declarationFault_iff (hword : ∀ c ∈ word, isBlank c = false) :
    DeclarationFault format before word kind ↔ Fails (takeDeclaration format sys word) kind := by
  constructor
  · intro hfault
    cases hfault with
    | unsplit hnot =>
      rw [takeDeclaration]
      cases hcut : cut? ['='] word with
      | none => exact ⟨_, rfl, rfl⟩
      | some parts => exact absurd (cut?_eq_some_iff_splitsAt.1 hcut) (hnot _ _)
    | notNumber hsplit hnot =>
      rw [takeDeclaration, cut?_eq_some_iff_splitsAt.2 hsplit]
      refine fails_bind.2 (.inl (fails_readIndex.2 ⟨?_, rfl⟩))
      rw [trim_of_splitsAt hword hsplit]
      exact hnot
    | @notName left right index hsplit hindex hnot =>
      rw [takeDeclaration, cut?_eq_some_iff_splitsAt.2 hsplit]
      rw [← trim_of_splitsAt hword hsplit, ← readIndex_eq_ok_iff] at hindex
      refine fails_bind.2 (.inr ⟨index, hindex, ?_⟩)
      rw [readName?_eq_none hnot]
      exact ⟨_, rfl, rfl⟩
    | sameIndex hdeclares hother =>
      rw [takeDeclaration_of_declares hword hdeclares,
        if_pos ((isNamed_iff_declaredAs h).2 ⟨_, hother⟩)]
      exact ⟨_, rfl, rfl⟩
    | sameName hdeclares hindex hother =>
      rw [takeDeclaration_of_declares hword hdeclares,
        if_neg (mt (isNamed_iff_declaredAs h).1 (not_exists.2 hindex)),
        if_pos ((mem_names_iff_declaredAs h).2 ⟨_, hother⟩)]
      exact ⟨_, rfl, rfl⟩
  · intro hfails
    by_cases hdeclares : ∃ p, Declares format word p
    · obtain ⟨⟨name, index⟩, hdeclares⟩ := hdeclares
      rw [takeDeclaration_of_declares hword hdeclares] at hfails
      split at hfails
      next hnamed =>
        obtain rfl := fails_error.1 hfails
        obtain ⟨other, hother⟩ := (isNamed_iff_declaredAs h).1 hnamed
        exact .sameIndex hdeclares hother
      next hnamed =>
        split at hfails
        next hmem =>
          obtain rfl := fails_error.1 hfails
          obtain ⟨other, hother⟩ := (mem_names_iff_declaredAs h).1 hmem
          exact .sameName hdeclares (not_exists.1 (mt (isNamed_iff_declaredAs h).2 hnamed)) hother
        next => exact absurd hfails (not_fails_ok _)
    · rw [takeDeclaration] at hfails
      split at hfails
      next hcut =>
        obtain rfl := fails_error.1 hfails
        refine .unsplit fun left right hsplit => ?_
        rw [cut?_eq_some_iff_splitsAt.2 hsplit] at hcut
        cases hcut
      next left right hcut =>
        have hsplit := cut?_eq_some_iff_splitsAt.1 hcut
        rcases fails_bind.1 hfails with hnumber | ⟨index, hindex, hname⟩
        · obtain ⟨hnot, rfl⟩ := fails_readIndex.1 hnumber
          rw [trim_of_splitsAt hword hsplit] at hnot
          exact .notNumber hsplit hnot
        · rw [readIndex_eq_ok_iff, trim_of_splitsAt hword hsplit] at hindex
          have hnot : ∀ raw, raw ≠ [] → right ≠ format.marker.toList ++ raw := by
            rintro raw hraw rfl
            exact hdeclares ⟨(_, index), left, raw, hsplit, hindex, hraw, rfl⟩
          rw [readName?_eq_none hnot] at hname
          obtain rfl := fails_error.1 hname
          exact .notName hsplit hindex hnot

/-- **An item is refused exactly if it violates the format**, and for that. -/
theorem violates_iff (htidy : part.Tidy) :
    Violates format before part kind ↔ Fails (takePart format sys part) kind := by
  cases part with
  | footer lines =>
    rw [Violates, takePart]
    by_cases hlines : lines < 2
    · simp [hlines, LineProblem.kind, eq_comm]
    · simp [hlines]
  | count text =>
    rw [Violates, takePart, fails_bind, fails_readIndex]
    simp [pure, Except.pure, eq_comm]
  | frontier word =>
    rw [Violates, takePart, fails_bind, stateFault_iff h]
    simp [pure, Except.pure]
  | unsplit line => simp [Violates, takePart, LineProblem.kind, eq_comm]
  | subject text =>
    rw [Violates, stateFault_iff h]
    exact fails_unless.symm
  | target subject text =>
    rw [Violates, takePart, namesState_iff h, stateFault_iff h]
    cases hstate : (readState sys.size (trim subject)).toOption with
    | none => simp
    | some s => simpa using fails_unless.symm
  | declaration word => exact declarationFault_iff h (htidy word rfl)
  | index subject word =>
    rw [Violates, takePart, namesState_iff h]
    cases hstate : (readState sys.size (trim subject)).toOption with
    | none => simp
    | some s => simpa using indexFault_iff h

omit h

/-! ## All items -/

theorem faultless_concat (hxs : Faultless format xs)
    (hitem : ∀ kind, ¬Violates format xs item.part kind) : Faultless format (xs ++ [item]) := by
  intro before x after heq
  rcases List.eq_nil_or_concat after with rfl | ⟨after, last, rfl⟩
  · obtain ⟨rfl, hlast⟩ := List.append_inj' heq rfl
    cases hlast
    exact hitem
  · have heq' : xs ++ [item] = (before ++ x :: after) ++ [last] := by simpa using heq
    obtain ⟨hxs', -⟩ := List.append_inj' heq' rfl
    exact hxs before x after hxs'

/-- Items that are taken in are not wrong, and what they said is known. -/
theorem collected_of_foldlM {transitionFile labelFile : String} (htidy : ∀ x ∈ xs, x.part.Tidy)
    (hfold : xs.foldlM (takeItem format transitionFile labelFile) (unexplored 0) = .ok sys) :
    Collected format xs sys ∧ Faultless format xs := by
  induction xs using List.reverseRecOn generalizing sys with
  | nil =>
    cases hfold
    refine ⟨.nil format, ?_⟩
    intro before item after heq
    simp at heq
  | append_singleton xs x ih =>
    obtain ⟨htidy, hx⟩ := List.forall_mem_append.1 htidy
    have hx : x.part.Tidy := hx x (List.mem_singleton.2 rfl)
    rw [List.foldlM_append] at hfold
    obtain ⟨sys₁, hxs, hlast⟩ := bind_eq_ok_iff.1 hfold
    obtain ⟨sys₂, htake, hnil⟩ := bind_eq_ok_iff.1 hlast
    cases hnil
    have htake : takePart format sys₁ x.part = .ok sys := mapError_eq_ok_iff.1 htake
    obtain ⟨hcollected, hfaultless⟩ := ih htidy hxs
    refine ⟨hcollected.step hx htake, faultless_concat hfaultless fun kind hviolates => ?_⟩
    rw [violates_iff hcollected hx, htake] at hviolates
    exact not_fails_ok sys hviolates

/-- Reading stops at an item that is wrong after others that are not. -/
theorem exists_refused_of_readFrom {transitionFile labelFile : String} {error : ReadError}
    (h : readFrom format transitionFile transitions labelFile labels = .error error) :
    ∃ before item after sys problem, items transitions labels = before ++ item :: after ∧
      before.foldlM (takeItem format transitionFile labelFile) (unexplored 0) = .ok sys ∧
      takeItem format transitionFile labelFile sys item = .error error ∧
      error = item.error transitionFile labelFile problem ∧ Faultless format before ∧
      ∀ kind, Violates format before item.part kind ↔ kind = problem.kind := by
  rw [readFrom_eq_foldlM] at h
  obtain ⟨before, item, after, sys, hitems, hbefore, htake⟩ := foldlM_eq_error_iff.1 h
  obtain ⟨problem, hproblem, herror⟩ := mapError_eq_error_iff.1 htake
  have htidy : ∀ x ∈ before ++ item :: after, x.part.Tidy := by
    rw [← hitems]
    exact fun x => tidy_of_mem_items
  rw [List.forall_mem_append, List.forall_mem_cons] at htidy
  obtain ⟨hcollected, hfaultless⟩ := collected_of_foldlM htidy.1 hbefore
  refine ⟨before, item, after, sys, problem, hitems, hbefore, htake, herror, hfaultless,
    fun kind => ?_⟩
  rw [violates_iff hcollected htidy.2.1, hproblem, fails_error, eq_comm]

/-- **The error that reading reports is the first violation.** Two texts are read exactly if no
item is wrong. Otherwise there is an item that is wrong after others that are not; the error has
the file, the line and the kind of that item, and it stays the same whatever the later items
are. -/
theorem readFrom_reports_first_violation (format : TextFormat)
    (transitionFile transitions labelFile labels : String) :
    ((∃ sys, readFrom format transitionFile transitions labelFile labels = .ok sys) ↔
      Faultless format (items transitions labels)) ∧
    ∀ error, readFrom format transitionFile transitions labelFile labels = .error error →
      ∃ before item after problem, items transitions labels = before ++ item :: after ∧
        Faultless format before ∧
        (∀ kind, Violates format before item.part kind ↔ kind = problem.kind) ∧
        error = .malformed (item.half.select transitionFile labelFile) ⟨item.line, problem⟩ ∧
        item.Stands transitions labels ∧
        ∀ transitions' labels' after', items transitions' labels' = before ++ item :: after' →
          readFrom format transitionFile transitions' labelFile labels' = .error error := by
  refine ⟨⟨?_, fun hfaultless => ?_⟩, fun error herror => ?_⟩
  · rintro ⟨sys, hsys⟩
    rw [readFrom_eq_foldlM] at hsys
    exact (collected_of_foldlM (fun x => tidy_of_mem_items) hsys).2
  · cases hread : readFrom format transitionFile transitions labelFile labels with
    | ok sys => exact ⟨sys, rfl⟩
    | error error =>
      obtain ⟨before, item, after, -, problem, hitems, -, -, -, -, hkind⟩ :=
        exists_refused_of_readFrom hread
      exact absurd ((hkind _).2 rfl) (hfaultless before item after hitems _)
  · obtain ⟨before, item, after, sys, problem, hitems, hbefore, htake, rfl, hfaultless, hkind⟩ :=
      exists_refused_of_readFrom herror
    have hitem : item ∈ items transitions labels := by simp [hitems]
    refine ⟨before, item, after, problem, hitems, hfaultless, hkind, rfl,
      stands_of_mem_items hitem, fun transitions' labels' after' hitems' => ?_⟩
    rw [readFrom_eq_foldlM]
    exact foldlM_eq_error_iff.2 ⟨before, item, after', sys, hitems', hbefore, htake⟩

/-- The first thing wrong is the target in the second line, which is no state. -/
theorem readFrom_reports_first_violation_target :
    let transitions := "0 -> 1\n1 -> 7\nx\n1\n2\n\n"
    let labels := "0=prop_a 0=prop_b\n"
    let error : ReadError := .malformed "t" ⟨2, .stateOutOfRange 7 2⟩
    readFrom {} "t" transitions "l" labels = .error error ∧
    ∃ before item after, items transitions labels = before ++ item :: after ∧
      Faultless {} before ∧ Violates {} before item.part .stateOutOfRange ∧ item.line = 2 ∧
      ∀ transitions' labels' after', items transitions' labels' = before ++ item :: after' →
        readFrom {} "t" transitions' "l" labels' = .error error := by
  intro transitions labels error
  have herror : readFrom {} "t" transitions "l" labels = .error error :=
    error?_eq_some_iff.1 (by decide +kernel)
  obtain ⟨before, item, after, problem, hitems, hfaultless, hkind, heq, -, hlater⟩ :=
    (readFrom_reports_first_violation {} "t" transitions "l" labels).2 error herror
  obtain ⟨-, hline⟩ := ReadError.malformed.inj heq
  obtain ⟨hnumber, rfl⟩ := LineError.mk.inj hline
  exact ⟨herror, before, item, after, hitems, hfaultless, (hkind _).2 rfl, hnumber.symm, hlater⟩

end System

end BranchingTime
