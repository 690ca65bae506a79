/-
Operator notation is its table. The table lists operators and functions with what they make
of their operands (`connectives`, `functions`); a tree reads as a formula if the rules of the
notation give it that formula (`Reads`), and the reading of trees gives exactly those.

A tree is read exactly if every node that the reading comes to is allowed by itself. If not,
the reading reports the first thing wrong in the order in which things are judged: operands
before their operator, and of a call first the callee, then the arguments, and then the
function with the number of its arguments (`judgements`).
-/
import Mathlib.Data.List.Forall2
import BranchingTime.Expression.Tree
import BranchingTime.Proofs.Text

namespace BranchingTime.Expression

/-! ## The table -/

/-- The operators, and what they make of the operands to the left and to the right. -/
def connectives : List (Operator × (Formula → Formula → Formula)) :=
  [(.add, .disj), (.or, .disj), (.bitOr, .disj),
    (.mul, .conj), (.and, .conj), (.bitAnd, .conj),
    (.eq, .iff),
    (.shr, .imp), (.gt, .imp),
    (.shl, fun f g => .imp g f), (.lt, fun f g => .imp g f), (.le, fun f g => .imp g f)]

theorem Operator.connective?_eq_some_iff {op : Operator} {make : Formula → Formula → Formula} :
    op.connective? = some make ↔ (op, make) ∈ connectives := by
  cases op <;> simp [connective?, connectives, eq_comm]

namespace Function

/-- The functions, each with a second way to write its name. -/
def functions : List (String × Function) :=
  [("not", .unary "Not" .neg), ("and", .chained "And" .conj), ("or", .chained "Or" .disj),
    ("implies", .binary "Implies" .imp), ("iff", .binary "Iff" .iff),
    ("ex", .unary "EX" .ex), ("ax", .unary "AX" .ax), ("eg", .unary "EG" .eg),
    ("ag", .unary "AG" .ag), ("ef", .unary "EF" .ef), ("af", .unary "AF" .af),
    ("eu", .binary "EU" .eu), ("au", .binary "AU" .au)]

def name : Function → String
  | unary name _ | binary name _ | chained name _ => name

/-- The number of arguments is one for the function. -/
def Admits : Function → Nat → Prop
  | unary _ _, count => count = 1
  | binary _ _, count => count = 2
  | chained _ _, count => 1 ≤ count

/-- The word is one of the names of the function. -/
def NamedBy (function : Function) (word : String) : Prop :=
  ∃ short, (short, function) ∈ functions ∧ (word = function.name ∨ word = short)

theorem ofName?_eq_some_iff {word : String} {function : Function} :
    ofName? word = some function ↔ function.NamedBy word := by
  constructor
  · intro h
    unfold ofName? at h
    split at h
    all_goals cases h
    all_goals simp [NamedBy, functions, name]
  · rintro ⟨short, hrow, hword⟩
    simp only [functions, List.mem_cons, Prod.mk.injEq, List.not_mem_nil, or_false] at hrow
    rcases hrow with ⟨rfl, rfl⟩ | ⟨rfl, rfl⟩ | ⟨rfl, rfl⟩ | ⟨rfl, rfl⟩ | ⟨rfl, rfl⟩ | ⟨rfl, rfl⟩ |
      ⟨rfl, rfl⟩ | ⟨rfl, rfl⟩ | ⟨rfl, rfl⟩ | ⟨rfl, rfl⟩ | ⟨rfl, rfl⟩ | ⟨rfl, rfl⟩ | ⟨rfl, rfl⟩
    all_goals rcases hword with rfl | rfl <;> rfl

/-- A word names one function. -/
theorem NamedBy.eq {word : String} {function other : Function} (h : function.NamedBy word)
    (h' : other.NamedBy word) : function = other := by
  rw [← ofName?_eq_some_iff] at h h'
  exact Option.some.inj (h.symm.trans h')

theorem exists_apply_eq_ok {function : Function} {fs : List Formula}
    (h : function.Admits fs.length) : ∃ f, function.apply fs = .ok f := by
  cases function with
  | unary name make =>
    obtain ⟨f, rfl⟩ := List.length_eq_one_iff.1 h
    exact ⟨make f, rfl⟩
  | binary name make =>
    obtain ⟨f, g, rfl⟩ := List.length_eq_two.1 h
    exact ⟨make f g, rfl⟩
  | chained name make =>
    obtain ⟨f, fs, rfl⟩ := List.exists_cons_of_length_pos h
    exact ⟨fs.foldl make f, rfl⟩

theorem apply_eq_error {function : Function} {fs : List Formula}
    (h : ¬function.Admits fs.length) : function.apply fs = .error (.wrongArity function.name) := by
  unfold apply
  split
  next => exact absurd rfl h
  next => rfl
  next => exact absurd rfl h
  next => rfl
  next => exact absurd (Nat.succ_pos _) h
  next => rfl

end Function

namespace Tree

variable {tree node t u left right callee : Tree} {ts us : List Tree} {f g : Formula}
  {fs : List Formula} {op : Operator} {word : String} {make : Formula → Formula → Formula}
  {function : Function}

/-- Trees by their nodes; the arguments of a call come together. -/
@[elab_as_elim]
theorem node_induction {motive : Tree → Prop} (truth : ∀ value, motive (.truth value))
    (text : ∀ value, motive (.text value)) (word : ∀ name, motive (.word name))
    (path : motive .path) (negated : ∀ t, motive t → motive (.negated t))
    (binary : ∀ op left right, motive left → motive right → motive (.binary op left right))
    (parenthesized : ∀ t, motive t → motive (.parenthesized t))
    (call : ∀ callee ts, (∀ t ∈ ts, motive t) → motive (.call callee ts))
    (block : motive .block) (range : motive .range) (other : motive .other) (tree : Tree) :
    motive tree :=
  @Tree.rec motive (fun ts => ∀ t ∈ ts, motive t) truth text word path negated binary
    parenthesized (fun callee ts _ hts => call callee ts hts) block range other
    (List.forall_mem_nil _) (fun _ _ ht hts => List.forall_mem_cons.2 ⟨ht, hts⟩) tree

/-! ## Calls -/

theorem toFormulas_eq_ok_iff :
    toFormulas ts = .ok fs ↔ List.Forall₂ (·.toFormula = .ok ·) ts fs := by
  induction ts generalizing fs with
  | nil => simp [toFormulas, eq_comm]
  | cons t ts ih =>
    rw [toFormulas, bind_eq_ok_iff, List.forall₂_cons_left_iff]
    constructor
    · rintro ⟨f, hf, hrest⟩
      obtain ⟨gs, hgs, heq⟩ := bind_eq_ok_iff.1 hrest
      exact ⟨f, gs, hf, ih.1 hgs, (Except.ok.inj heq).symm⟩
    · rintro ⟨f, gs, hf, hgs, rfl⟩
      exact ⟨f, hf, bind_eq_ok_iff.2 ⟨gs, ih.2 hgs, rfl⟩⟩

theorem length_eq_of_toFormulas (h : toFormulas ts = .ok fs) : fs.length = ts.length :=
  (toFormulas_eq_ok_iff.1 h).length_eq.symm

theorem toFormula_call_eq_ok_iff : (call (.word word) ts).toFormula = .ok f ↔
    ∃ (fs : List Formula) (function : Function), List.Forall₂ (·.toFormula = .ok ·) ts fs ∧
      function.NamedBy word ∧ function.apply fs = .ok f := by
  rw [toFormula, bind_eq_ok_iff]
  constructor
  · rintro ⟨fs, hfs, happly⟩
    split at happly
    next function hname =>
      exact ⟨fs, function, toFormulas_eq_ok_iff.1 hfs, Function.ofName?_eq_some_iff.1 hname, happly⟩
    next => cases happly
  · rintro ⟨fs, function, hfs, hname, happly⟩
    refine ⟨fs, toFormulas_eq_ok_iff.2 hfs, ?_⟩
    rw [Function.ofName?_eq_some_iff.2 hname]
    exact happly

/-! ## Readings -/

/-- The rules of the notation. Brackets leave no trace, and a chain of arguments nests to the
left: each further argument is joined to what stands before it. -/
inductive Reads : Tree → Formula → Prop where
  | true : Reads (.truth true) .tt
  | false : Reads (.truth false) .ff
  | text {name : String} : Reads (.text name) (.atom name)
  | word {name : String} : Reads (.word name) (.atom name)
  | negated {t : Tree} {f : Formula} (ht : Reads t f) : Reads (.negated t) (.neg f)
  | parenthesized {t : Tree} {f : Formula} (ht : Reads t f) : Reads (.parenthesized t) f
  | operator {op : Operator} {make : Formula → Formula → Formula} {left right : Tree}
    {f g : Formula} (hop : (op, make) ∈ connectives) (hleft : Reads left f)
    (hright : Reads right g) : Reads (.binary op left right) (make f g)
  | unary {word name : String} {make : Formula → Formula} {t : Tree} {f : Formula}
    (hword : (Function.unary name make).NamedBy word) (ht : Reads t f) :
    Reads (.call (.word word) [t]) (make f)
  | binary {word name : String} {make : Formula → Formula → Formula} {t u : Tree}
    {f g : Formula} (hword : (Function.binary name make).NamedBy word) (ht : Reads t f)
    (hu : Reads u g) : Reads (.call (.word word) [t, u]) (make f g)
  | first {word name : String} {make : Formula → Formula → Formula} {t : Tree} {f : Formula}
    (hword : (Function.chained name make).NamedBy word) (ht : Reads t f) :
    Reads (.call (.word word) [t]) f
  | further {word name : String} {make : Formula → Formula → Formula} {ts : List Tree} {t : Tree}
    {f g : Formula} (hword : (Function.chained name make).NamedBy word)
    (hts : Reads (.call (.word word) ts) f) (ht : Reads t g) :
    Reads (.call (.word word) (ts ++ [t])) (make f g)

theorem toFormula_binary_eq_ok_iff : (binary op left right).toFormula = .ok f ↔
    ∃ g h make, left.toFormula = .ok g ∧ right.toFormula = .ok h ∧ (op, make) ∈ connectives ∧
      make g h = f := by
  rw [toFormula]
  constructor
  · intro hf
    obtain ⟨g, hg, hf⟩ := bind_eq_ok_iff.1 hf
    obtain ⟨h, hh, hf⟩ := bind_eq_ok_iff.1 hf
    split at hf
    next make hop =>
      exact ⟨g, h, make, hg, hh, Operator.connective?_eq_some_iff.1 hop, Except.ok.inj hf⟩
    next => cases hf
  · rintro ⟨g, h, make, hg, hh, hop, rfl⟩
    rw [hg, hh, Operator.connective?_eq_some_iff.2 hop]
    rfl

/-- Further arguments are joined to a chain one by one. -/
theorem Reads.chain {name : String} (hword : (Function.chained name make).NamedBy word)
    (h : (call (.word word) us).Reads f) (hts : List.Forall₂ Reads ts fs) :
    (call (.word word) (us ++ ts)).Reads (fs.foldl make f) := by
  induction hts generalizing us f with
  | nil => simpa using h
  | cons ht _ ih => simpa using ih (.further hword h ht)

/-- What a function makes of arguments that are read is a reading of its call. -/
theorem reads_call (hword : function.NamedBy word) (hts : List.Forall₂ Reads ts fs)
    (happly : function.apply fs = .ok f) : (call (.word word) ts).Reads f := by
  cases function with
  | unary name make =>
    cases hts with
    | nil => cases happly
    | cons ht hrest =>
      cases hrest with
      | nil =>
        cases happly
        exact .unary hword ht
      | cons _ _ => cases happly
  | binary name make =>
    cases hts with
    | nil => cases happly
    | cons ht hrest =>
      cases hrest with
      | nil => cases happly
      | cons hu hrest =>
        cases hrest with
        | nil =>
          cases happly
          exact .binary hword ht hu
        | cons _ _ => cases happly
  | chained name make =>
    cases hts with
    | nil => cases happly
    | cons ht hrest =>
      cases happly
      exact (Reads.first hword ht).chain hword hrest

theorem reads_of_toFormula (h : tree.toFormula = .ok f) : tree.Reads f := by
  induction tree using node_induction generalizing f with
  | truth value =>
    cases h
    cases value with
    | true => exact .true
    | false => exact .false
  | text value =>
    cases h
    exact .text
  | word name =>
    cases h
    exact .word
  | negated t ih =>
    obtain ⟨g, hg, heq⟩ := bind_eq_ok_iff.1 h
    cases heq
    exact .negated (ih hg)
  | binary op left right ihleft ihright =>
    obtain ⟨g, h, make, hg, hh, hop, rfl⟩ := toFormula_binary_eq_ok_iff.1 h
    exact .operator hop (ihleft hg) (ihright hh)
  | parenthesized t ih => exact .parenthesized (ih h)
  | call callee ts ih =>
    cases callee with
    | word name =>
      obtain ⟨fs, function, hfs, hword, happly⟩ := toFormula_call_eq_ok_iff.1 h
      have hboth := (List.forall₂_and_left (p := fun t => ∀ f, t.toFormula = .ok f → t.Reads f)
        ts fs).2 ⟨fun t ht f => ih t ht, hfs⟩
      exact reads_call hword (hboth.imp fun t f ht => ht.1 f ht.2) happly
    | _ => cases h
  | path | block | range | other => cases h

theorem toFormula_of_reads (h : tree.Reads f) : tree.toFormula = .ok f := by
  induction h with
  | true | false | text | word => rfl
  | negated _ ih =>
    rw [toFormula, ih]
    rfl
  | parenthesized _ ih => exact ih
  | operator hop _ _ ihleft ihright =>
    exact toFormula_binary_eq_ok_iff.2 ⟨_, _, _, ihleft, ihright, hop, rfl⟩
  | unary hword _ ih =>
    exact toFormula_call_eq_ok_iff.2 ⟨_, _, .cons ih .nil, hword, rfl⟩
  | binary hword _ _ iht ihu =>
    exact toFormula_call_eq_ok_iff.2 ⟨_, _, .cons iht (.cons ihu .nil), hword, rfl⟩
  | first hword _ ih =>
    exact toFormula_call_eq_ok_iff.2 ⟨_, _, .cons ih .nil, hword, rfl⟩
  | @further word name make ts t f g hword _ _ ihts iht =>
    obtain ⟨fs, function, hfs, hsame, happly⟩ := toFormula_call_eq_ok_iff.1 ihts
    obtain rfl := hsame.eq hword
    cases fs with
    | nil => cases happly
    | cons first rest =>
      have hfold : rest.foldl make first = f := Except.ok.inj happly
      have hmore : List.Forall₂ (·.toFormula = .ok ·) [t] [g] := .cons iht .nil
      refine toFormula_call_eq_ok_iff.2 ⟨first :: rest ++ [g], _, List.rel_append hfs hmore,
        hword, ?_⟩
      rw [← hfold]
      simp [Function.apply]

theorem toFormula_eq_ok_iff : tree.toFormula = .ok f ↔ tree.Reads f :=
  ⟨reads_of_toFormula, toFormula_of_reads⟩

/-! ## Nodes -/

/-- The reading of a tree comes to this node. -/
inductive Reaches : Tree → Tree → Prop where
  | here {t : Tree} : Reaches t t
  | negated {t node : Tree} (h : Reaches t node) : Reaches (.negated t) node
  | left {op : Operator} {left right node : Tree} (h : Reaches left node) :
    Reaches (.binary op left right) node
  | right {op : Operator} {left right node : Tree} (h : Reaches right node) :
    Reaches (.binary op left right) node
  | parenthesized {t node : Tree} (h : Reaches t node) : Reaches (.parenthesized t) node
  | argument {callee t node : Tree} {ts : List Tree} (ht : t ∈ ts) (h : Reaches t node) :
    Reaches (.call callee ts) node

/-- The node itself is one of the notation, whatever its operands and arguments are. -/
inductive Allowed : Tree → Prop where
  | truth {value : Bool} : Allowed (.truth value)
  | text {value : String} : Allowed (.text value)
  | word {name : String} : Allowed (.word name)
  | negated {t : Tree} : Allowed (.negated t)
  | parenthesized {t : Tree} : Allowed (.parenthesized t)
  | operator {op : Operator} {make : Formula → Formula → Formula} {left right : Tree}
    (hop : (op, make) ∈ connectives) : Allowed (.binary op left right)
  | call {function : Function} {word : String} {ts : List Tree} (hword : function.NamedBy word)
    (hcount : function.Admits ts.length) : Allowed (.call (.word word) ts)

theorem Reads.allowed (h : tree.Reads f) : tree.Allowed := by
  cases h with
  | true | false => exact .truth
  | text => exact .text
  | word => exact .word
  | negated _ => exact .negated
  | parenthesized _ => exact .parenthesized
  | operator hop _ _ => exact .operator hop
  | unary hword _ => exact .call hword rfl
  | binary hword _ _ => exact .call hword rfl
  | first hword _ => exact .call hword (Nat.le_refl 1)
  | further hword _ _ => exact .call hword (by simp [Function.Admits])

/-- What a reading comes to is read itself. -/
theorem Reaches.exists_toFormula (h : tree.Reaches node) (htree : tree.toFormula = .ok f) :
    ∃ g, node.toFormula = .ok g := by
  induction h generalizing f with
  | here => exact ⟨f, htree⟩
  | negated _ ih =>
    obtain ⟨g, hg, -⟩ := bind_eq_ok_iff.1 htree
    exact ih hg
  | left _ ih =>
    obtain ⟨g, -, -, hg, -⟩ := toFormula_binary_eq_ok_iff.1 htree
    exact ih hg
  | right _ ih =>
    obtain ⟨-, g, -, -, hg, -⟩ := toFormula_binary_eq_ok_iff.1 htree
    exact ih hg
  | parenthesized _ ih => exact ih htree
  | @argument callee t node ts ht _ ih =>
    cases callee with
    | word name =>
      obtain ⟨fs, -, hfs, -⟩ := toFormula_call_eq_ok_iff.1 htree
      obtain ⟨i, hi, rfl⟩ := List.getElem_of_mem ht
      exact ih (hfs.get hi (hfs.length_eq ▸ hi))
    | _ => cases htree

theorem exists_toFormulas (h : ∀ t ∈ ts, ∃ f, t.toFormula = .ok f) :
    ∃ fs, List.Forall₂ (·.toFormula = .ok ·) ts fs := by
  induction ts with
  | nil => exact ⟨[], .nil⟩
  | cons t ts ih =>
    obtain ⟨⟨f, hf⟩, hts⟩ := List.forall_mem_cons.1 h
    obtain ⟨fs, hfs⟩ := ih hts
    exact ⟨f :: fs, .cons hf hfs⟩

theorem exists_toFormula_of_allowed (h : ∀ node, tree.Reaches node → node.Allowed) :
    ∃ f, tree.toFormula = .ok f := by
  induction tree using node_induction with
  | truth value => exact ⟨_, rfl⟩
  | text value => exact ⟨_, rfl⟩
  | word name => exact ⟨_, rfl⟩
  | negated t ih =>
    obtain ⟨f, hf⟩ := ih fun node hnode => h node hnode.negated
    exact ⟨.neg f, bind_eq_ok_iff.2 ⟨f, hf, rfl⟩⟩
  | binary op left right ihleft ihright =>
    obtain ⟨f, hf⟩ := ihleft fun node hnode => h node hnode.left
    obtain ⟨g, hg⟩ := ihright fun node hnode => h node hnode.right
    cases h _ .here with
    | @operator _ make _ _ hop =>
      exact ⟨make f g, toFormula_binary_eq_ok_iff.2 ⟨f, g, make, hf, hg, hop, rfl⟩⟩
  | parenthesized t ih => exact ih fun node hnode => h node hnode.parenthesized
  | call callee ts ih =>
    obtain ⟨fs, hfs⟩ := exists_toFormulas fun t ht => ih t ht fun node hnode =>
      h node (.argument ht hnode)
    cases h _ .here with
    | call hword hcount =>
      obtain ⟨f, hf⟩ := Function.exists_apply_eq_ok (hfs.length_eq ▸ hcount)
      exact ⟨f, toFormula_call_eq_ok_iff.2 ⟨fs, _, hfs, hword, hf⟩⟩
  | path | block | range | other => cases h _ .here

theorem exists_toFormula_iff :
    (∃ f, tree.toFormula = .ok f) ↔ ∀ node, tree.Reaches node → node.Allowed := by
  constructor
  · rintro ⟨f, hf⟩ node hnode
    obtain ⟨g, hg⟩ := hnode.exists_toFormula hf
    exact (reads_of_toFormula hg).allowed
  · exact exists_toFormula_of_allowed

end Tree

/-! ## What is judged, and when -/

/-- Something that is looked at on its own. -/
inductive Judgement where
  /-- What stands in front of the arguments of a call. -/
  | callee (callee : Tree)
  /-- A node, when its operands and arguments have been judged. -/
  | node (tree : Tree)

/-- What is wrong with it, if anything is. -/
inductive Judgement.Violates : Judgement → TreeError → Prop where
  | path : Violates (.node .path) .invalidProposition
  | operator {op : Operator} {left right : Tree} (h : ∀ make, (op, make) ∉ connectives) :
    Violates (.node (.binary op left right)) (.unknownOperator op)
  | callee {callee : Tree} (h : ∀ name, callee ≠ .word name) :
    Violates (.callee callee) (.invalidFunction callee)
  | function {word : String} {ts : List Tree} (h : ∀ function : Function, ¬function.NamedBy word) :
    Violates (.node (.call (.word word) ts)) (.unknownFunction word)
  | count {function : Function} {word : String} {ts : List Tree}
    (hword : function.NamedBy word) (h : ¬function.Admits ts.length) :
    Violates (.node (.call (.word word) ts)) (.wrongArity function.name)
  | block : Violates (.node .block) (.invalidExpression .block)
  | range : Violates (.node .range) (.invalidExpression .range)
  | other : Violates (.node .other) (.invalidExpression .other)

/-- Nothing is wrong with any of them. -/
def Clean (js : List Judgement) : Prop := ∀ j ∈ js, ∀ error, ¬j.Violates error

/-- The error is that of the first among them with which something is wrong. -/
def FirstViolation (js : List Judgement) (error : TreeError) : Prop :=
  ∃ before j after, js = before ++ j :: after ∧ Clean before ∧ j.Violates error

namespace Tree

mutual

/-- All that is judged of a tree, in order: operands from left to right before their operator;
of a call first the callee, then the arguments from left to right, and then the call itself. -/
def judgements : Tree → List Judgement
  | truth value => [.node (truth value)]
  | text value => [.node (text value)]
  | word name => [.node (word name)]
  | path => [.node path]
  | negated operand => operand.judgements ++ [.node (negated operand)]
  | binary op left right =>
    left.judgements ++ (right.judgements ++ [.node (binary op left right)])
  | parenthesized inner => inner.judgements ++ [.node (parenthesized inner)]
  | call callee arguments =>
    .callee callee :: (judgementsOf arguments ++ [.node (call callee arguments)])
  | block => [.node block]
  | range => [.node range]
  | other => [.node other]

def judgementsOf : List Tree → List Judgement
  | [] => []
  | tree :: rest => tree.judgements ++ judgementsOf rest

end

end Tree

section

variable {α β : Type} {x : Except TreeError α} {js js' : List Judgement} {j : Judgement}
  {error error' : TreeError}

theorem Judgement.Violates.eq (h : j.Violates error) (h' : j.Violates error') :
    error = error' := by
  cases h with
  | function hword =>
    cases h' with
    | function _ => rfl
    | count hword' _ => exact absurd hword' (hword _)
  | count hword _ =>
    cases h' with
    | function hword' => exact absurd hword (hword' _)
    | count hword' _ => rw [hword.eq hword']
  | _ =>
    cases h'
    rfl

theorem clean_append_iff : Clean (js ++ js') ↔ Clean js ∧ Clean js' := List.forall_mem_append

theorem FirstViolation.eq (h : FirstViolation js error) (h' : FirstViolation js error') :
    error = error' := by
  obtain ⟨before, j, after, rfl, hbefore, hj⟩ := h
  obtain ⟨before', j', after', heq, hbefore', hj'⟩ := h'
  rcases List.append_eq_append_iff.1 heq with ⟨between, rfl, hrest⟩ | ⟨between, rfl, hrest⟩
  · cases between with
    | nil =>
      cases hrest
      exact hj.eq hj'
    | cons i between =>
      cases hrest
      exact absurd hj (hbefore' _ (by simp) _)
  · cases between with
    | nil =>
      cases hrest
      exact hj.eq hj'
    | cons i between =>
      cases hrest
      exact absurd hj' (hbefore _ (by simp) _)

/-- A result is what the judgements say: if something is wrong, the error of the first, and
otherwise no error. -/
inductive Judged : Except TreeError α → List Judgement → Prop where
  | ok {a : α} {js : List Judgement} (h : Clean js) : Judged (.ok a) js
  | error {error : TreeError} {js : List Judgement} (h : FirstViolation js error) :
    Judged (.error error) js

theorem judged_ok {a : α} (h : ∀ error, ¬j.Violates error) : Judged (.ok a) [j] :=
  .ok (List.forall_mem_singleton.2 h)

theorem judged_error (h : j.Violates error) :
    Judged (.error error : Except TreeError α) (j :: js) :=
  .error ⟨[], j, js, rfl, List.forall_mem_nil _, h⟩

/-- What comes later is judged only if nothing was wrong before. -/
theorem Judged.bind {k : α → Except TreeError β} (hx : Judged x js)
    (hk : ∀ a, x = .ok a → Judged (k a) js') : Judged (x >>= k) (js ++ js') := by
  cases hx with
  | @ok a _ hclean =>
    change Judged (k a) (js ++ js')
    have hka := hk a rfl
    generalize k a = y at hka
    cases hka with
    | ok hclean' => exact .ok (clean_append_iff.2 ⟨hclean, hclean'⟩)
    | error hfirst =>
      obtain ⟨before, j, after, rfl, hbefore, hj⟩ := hfirst
      exact .error ⟨js ++ before, j, after, by simp, clean_append_iff.2 ⟨hclean, hbefore⟩, hj⟩
  | error hfirst =>
    obtain ⟨before, j, after, rfl, hbefore, hj⟩ := hfirst
    exact .error ⟨before, j, after ++ js', by simp, hbefore, hj⟩

theorem Judged.cons (hj : ∀ error, ¬j.Violates error) (hx : Judged x js) : Judged x (j :: js) :=
  (judged_ok (a := ()) hj).bind fun _ _ => hx

theorem Judged.map (g : α → β) (hj : ∀ error, ¬j.Violates error) (hx : Judged x js) :
    Judged (x >>= fun a => .ok (g a)) (js ++ [j]) :=
  hx.bind fun _ _ => judged_ok hj

theorem Judged.eq_error_iff (h : Judged x js) : x = .error error ↔ FirstViolation js error := by
  cases h with
  | ok hclean =>
    refine ⟨fun heq => (by cases heq), ?_⟩
    rintro ⟨before, j, after, rfl, -, hj⟩
    exact absurd hj (hclean j (by simp) error)
  | error hfirst =>
    refine ⟨fun heq => ?_, fun hfirst' => ?_⟩
    · cases heq
      exact hfirst
    · rw [hfirst.eq hfirst']

end

namespace Tree

variable {ts : List Tree} {fs : List Formula} {op : Operator} {word : String}

/-- Of an operator whose operands are formulas, the table alone decides. -/
theorem judged_operator {left right : Tree} (f g : Formula) :
    Judged (match op.connective? with
      | some make => return make f g
      | none => throw (.unknownOperator op) : Except TreeError Formula)
      [.node (binary op left right)] := by
  split
  next make hop =>
    refine judged_ok ?_
    intro error h
    cases h with
    | operator hnone => exact hnone make (Operator.connective?_eq_some_iff.1 hop)
  next hop =>
    refine judged_error (.operator ?_)
    intro make hmake
    rw [Operator.connective?_eq_some_iff.2 hmake] at hop
    cases hop

/-- Of a call whose arguments are formulas, the name and the number of the arguments decide. -/
theorem judged_function (hlength : fs.length = ts.length) :
    Judged (match Function.ofName? word with
      | some function => function.apply fs
      | none => throw (.unknownFunction word) : Except TreeError Formula)
      [.node (call (.word word) ts)] := by
  split
  next function hname =>
    rw [Function.ofName?_eq_some_iff] at hname
    by_cases hcount : function.Admits ts.length
    · obtain ⟨f, hf⟩ := Function.exists_apply_eq_ok (hlength ▸ hcount)
      rw [hf]
      refine judged_ok ?_
      intro error h
      cases h with
      | function hnone => exact hnone function hname
      | count hother hwrong => exact hwrong (hname.eq hother ▸ hcount)
    · rw [Function.apply_eq_error (hlength ▸ hcount)]
      exact judged_error (.count hname hcount)
  next hname =>
    refine judged_error (.function ?_)
    intro function hfunction
    rw [Function.ofName?_eq_some_iff.2 hfunction] at hname
    cases hname

theorem judged_toFormulas (h : ∀ t ∈ ts, Judged t.toFormula t.judgements) :
    Judged (toFormulas ts) (judgementsOf ts) := by
  induction ts with
  | nil => exact .ok (List.forall_mem_nil _)
  | cons t ts ih =>
    obtain ⟨ht, hts⟩ := List.forall_mem_cons.1 h
    rw [judgementsOf, ← List.append_nil (judgementsOf ts)]
    exact ht.bind fun f _ => (ih hts).bind fun fs _ => .ok (List.forall_mem_nil _)

theorem judged_toFormula (tree : Tree) : Judged tree.toFormula tree.judgements := by
  induction tree using node_induction with
  | truth value => exact judged_ok (by intro error h; cases h)
  | text value => exact judged_ok (by intro error h; cases h)
  | word name => exact judged_ok (by intro error h; cases h)
  | path => exact judged_error .path
  | negated t ih => exact ih.map Formula.neg (by intro error h; cases h)
  | binary op left right ihleft ihright =>
    exact ihleft.bind fun f _ => ihright.bind fun g _ => judged_operator f g
  | parenthesized t ih =>
    have hsame : t.toFormula = t.toFormula >>= .ok := (bind_pure t.toFormula).symm
    rw [toFormula, judgements, hsame]
    exact ih.map id (by intro error h; cases h)
  | call callee ts ih =>
    cases callee with
    | word name =>
      refine Judged.cons ?_ ((judged_toFormulas ih).bind fun fs hfs =>
        judged_function (length_eq_of_toFormulas hfs))
      intro error h
      cases h with
      | callee hword => exact hword name rfl
    -- no argument is looked at
    | _ =>
      refine judged_error (.callee ?_)
      intro name h
      cases h
  | block => exact judged_error .block
  | range => exact judged_error .range
  | other => exact judged_error .other

/-! ## Every formula can be written -/

/-- A formula written with functions only; the propositions are quoted. -/
def ofFormula : Formula → Tree
  | .tt => truth true
  | .ff => truth false
  | .atom name => text name
  | .neg f => call (.word "Not") [ofFormula f]
  | .conj f g => call (.word "And") [ofFormula f, ofFormula g]
  | .disj f g => call (.word "Or") [ofFormula f, ofFormula g]
  | .imp f g => call (.word "Implies") [ofFormula f, ofFormula g]
  | .iff f g => call (.word "Iff") [ofFormula f, ofFormula g]
  | .ex f => call (.word "EX") [ofFormula f]
  | .ax f => call (.word "AX") [ofFormula f]
  | .ef f => call (.word "EF") [ofFormula f]
  | .af f => call (.word "AF") [ofFormula f]
  | .eg f => call (.word "EG") [ofFormula f]
  | .ag f => call (.word "AG") [ofFormula f]
  | .eu f g => call (.word "EU") [ofFormula f, ofFormula g]
  | .au f g => call (.word "AU") [ofFormula f, ofFormula g]

theorem reads_ofFormula (f : Formula) : (ofFormula f).Reads f := by
  induction f with
  | tt => exact .true
  | ff => exact .false
  | atom name => exact .text
  | conj f g ihf ihg =>
    have hword : (Function.chained "And" .conj).NamedBy "And" := Function.ofName?_eq_some_iff.1 rfl
    exact (Reads.first hword ihf).further hword ihg
  | disj f g ihf ihg =>
    have hword : (Function.chained "Or" .disj).NamedBy "Or" := Function.ofName?_eq_some_iff.1 rfl
    exact (Reads.first hword ihf).further hword ihg
  | neg f ih | ex f ih | ax f ih | ef f ih | af f ih | eg f ih | ag f ih =>
    exact .unary (Function.ofName?_eq_some_iff.1 rfl) ih
  | imp f g ihf ihg | iff f g ihf ihg | eu f g ihf ihg | au f g ihf ihg =>
    exact .binary (Function.ofName?_eq_some_iff.1 rfl) ihf ihg

/-- Operator notation is its table: a tree is read exactly if every node that the reading comes
to is allowed, what it is read as is what the rules say, and otherwise the error is that of the
first violation. Every formula is what its writing with functions is read as. -/
theorem toFormula_reads_by_table :
    (∀ tree : Tree,
      ((∃ f, tree.toFormula = .ok f) ↔ ∀ node, tree.Reaches node → node.Allowed) ∧
        (∀ f, tree.toFormula = .ok f ↔ tree.Reads f) ∧
        ∀ error, tree.toFormula = .error error ↔ FirstViolation tree.judgements error) ∧
      ∀ f, (ofFormula f).toFormula = .ok f := by
  refine ⟨fun tree => ⟨exists_toFormula_iff, fun f => toFormula_eq_ok_iff, fun error => ?_⟩,
    fun f => toFormula_of_reads (reads_ofFormula f)⟩
  exact (judged_toFormula tree).eq_error_iff

end Tree

end BranchingTime.Expression
