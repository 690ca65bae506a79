/-
What is in the store, and what it has cost. After any checks the bounds of exactly those
formulas are recorded that were evaluated on the way, and each of them has been paid for
once: the lookups add up to a cost that depends on the formula and the system alone
(`Balances`), modulo the size of a machine word. So neither the number of entries nor the
number of lookups depends on the order of the checks, or on how often a formula is checked.

The reason is that the entries are closed: with a formula, all that its evaluation records
is there. So a formula that is recalled adds nothing, and one that is not was never
computed before, since the evaluation of its operands does not come across it.

A check that breaks off since a set does not fit leaves the entries of what came before. It
fails again each time, at the same place, so even then the order makes no difference to the
entries. But the lookups of what breaks off are made each time again, and nothing is said of
their number.
-/
import BranchingTime.Proofs.Soundness
import Mathlib.Algebra.BigOperators.Group.Finset.Basic
import Mathlib.Data.Finset.Union

namespace BranchingTime

/-! ## Entries and their cost -/

namespace Formula

/-- The formulas whose bounds are recorded when a core formula is evaluated: the formula
and those of its operands. The operand of `EX true` is not looked at. -/
def visited : Formula → Finset Formula
  | ex tt => {ex tt}
  | tt => {tt}
  | ff => {ff}
  | atom name => {atom name}
  | neg f => insert (neg f) f.visited
  | ex f => insert (ex f) f.visited
  | ax f => insert (ax f) f.visited
  | eg f => insert (eg f) f.visited
  | ag f => insert (ag f) f.visited
  | ef f => insert (ef f) f.visited
  | af f => insert (af f) f.visited
  | conj f g => insert (conj f g) (f.visited ∪ g.visited)
  | disj f g => insert (disj f g) (f.visited ∪ g.visited)
  | imp f g => insert (imp f g) (f.visited ∪ g.visited)
  | iff f g => insert (iff f g) (f.visited ∪ g.visited)
  | eu f g => insert (eu f g) (f.visited ∪ g.visited)
  | au f g => insert (au f g) (f.visited ∪ g.visited)

theorem visited_ex {f : Formula} (h : f ≠ tt) : (ex f).visited = insert (ex f) f.visited := by
  cases f <;> first | rfl | exact absurd rfl h

end Formula

namespace System

variable {sys : System} {f g : Formula}

/-- The entries for a formula, after those for its operands. Its own is the last one,
unless the evaluation breaks off. -/
def close (sys : System) (f : Formula) (operands : Finset Formula) : Finset Formula :=
  if sys.Affords f then insert f operands else operands

/-- The entries for two operands. If the first one breaks off, that is the end. -/
def inTurn (sys : System) (f : Formula) (first second : Finset Formula) : Finset Formula :=
  if sys.Affords f then first ∪ second else first

/-- The formulas whose bounds are recorded when a core formula is evaluated on this system,
which may be too large for it. -/
def entries (sys : System) : Formula → Finset Formula
  | .ex .tt => sys.close (.ex .tt) ∅
  | .tt => sys.close .tt ∅
  | .ff => sys.close .ff ∅
  | .atom name => sys.close (.atom name) ∅
  | .neg f => sys.close (.neg f) (sys.entries f)
  | .ex f => sys.close (.ex f) (sys.entries f)
  | .ax f => sys.close (.ax f) (sys.entries f)
  | .eg f => sys.close (.eg f) (sys.entries f)
  | .conj f g => sys.close (.conj f g) (sys.inTurn f (sys.entries f) (sys.entries g))
  | .eu f g => sys.close (.eu f g) (sys.inTurn f (sys.entries f) (sys.entries g))
  | .disj _ _ | .imp _ _ | .iff _ _ | .ag _ | .ef _ | .af _ | .au _ _ => ∅

/-- How many lookups it takes to get the bounds of a core formula from those of its
operands. -/
def cost (sys : System) : Formula → Nat
  | .ex _ | .ax _ => sys.size
  | .eg f =>
    (sys.surelyGoesOn.greatest (sys.bounds f).lower sys.states).lookups +
      (sys.maybeGoesOn.greatest (sys.bounds f).upper sys.states).lookups
  | .eu f g =>
    (sys.surelyEnters.least (sys.bounds g).lower (sys.bounds f).lower).lookups +
      (sys.maybeEnters.least (sys.bounds g).upper (sys.bounds f).upper).lookups
  | .tt | .ff | .atom _ | .neg _ | .conj _ _ => 0
  | .disj _ _ | .imp _ _ | .iff _ _ | .ag _ | .ef _ | .af _ | .au _ _ => 0

theorem entries_ex (h : f ≠ .tt) : sys.entries (.ex f) = sys.close (.ex f) (sys.entries f) := by
  cases f <;> first | rfl | exact absurd rfl h

theorem close_subset (sys : System) (f : Formula) (operands : Finset Formula) :
    sys.close f operands ⊆ insert f operands := by
  unfold close
  split
  · exact Finset.Subset.refl _
  · exact Finset.subset_insert f operands

theorem inTurn_subset (sys : System) (f : Formula) (first second : Finset Formula) :
    sys.inTurn f first second ⊆ first ∪ second := by
  unfold inTurn
  split
  · exact Finset.Subset.refl _
  · exact Finset.subset_union_left

/-- Only the formula and smaller ones are recorded. -/
theorem sizeOf_le_of_mem_entries (h : g ∈ sys.entries f) : sizeOf g ≤ sizeOf f := by
  have closed : ∀ {f operands}, g ∈ sys.close f operands → g = f ∨ g ∈ operands :=
    fun h => Finset.mem_insert.1 (close_subset _ _ _ h)
  have turn : ∀ {f first second}, g ∈ sys.inTurn f first second → g ∈ first ∨ g ∈ second :=
    fun h => Finset.mem_union.1 (inTurn_subset _ _ _ _ h)
  induction f with
  | tt | ff | atom _ =>
    obtain rfl | h := closed h
    · exact Nat.le_refl _
    · simp at h
  | neg f ih | ax f ih | eg f ih =>
    obtain rfl | h := closed h
    · exact Nat.le_refl _
    · have := ih h
      simp
      omega
  | ex f ih =>
    by_cases hne : f = .tt
    · subst hne
      obtain rfl | h := closed h
      · exact Nat.le_refl _
      · simp at h
    · rw [entries_ex hne] at h
      obtain rfl | h := closed h
      · exact Nat.le_refl _
      · have := ih h
        simp
        omega
  | conj f g ihf ihg | eu f g ihf ihg =>
    obtain rfl | h := closed h
    · exact Nat.le_refl _
    · have := (turn h).imp ihf ihg
      simp
      omega
  | disj _ _ | imp _ _ | iff _ _ | ag _ | ef _ | af _ | au _ _ => simp [entries] at h

/-- Where the evaluation does not break off, all that is visited is recorded. -/
theorem entries_eq_visited (hf : f.isCore = true) (h : sys.Affords f) :
    sys.entries f = f.visited := by
  have closed : ∀ {f : Formula} {operands : Finset Formula}, sys.Affords f →
      sys.close f operands = insert f operands := fun h => if_pos h
  have turn : ∀ {f g : Formula}, sys.Affords f → sys.entries f = f.visited →
      sys.entries g = g.visited →
      sys.inTurn f (sys.entries f) (sys.entries g) = f.visited ∪ g.visited := by
    intro f g hafford hf hg
    rw [inTurn, if_pos hafford, hf, hg]
  induction f with
  | tt | ff | atom _ => exact closed h
  | neg f ih | ax f ih | eg f ih => exact (closed h).trans (congrArg _ (ih hf h.1))
  | ex f ih =>
    by_cases hne : f = .tt
    · subst hne
      exact closed h
    · rw [entries_ex hne, Formula.visited_ex hne, closed h, ih hf (h.1.resolve_left hne)]
  | conj f g ihf ihg =>
    obtain ⟨hf, hg⟩ := Bool.and_eq_true_iff.1 hf
    exact (closed h).trans (congrArg _ (turn h.1 (ihf hf h.1) (ihg hg h.2)))
  | eu f g ihf ihg =>
    obtain ⟨hf, hg⟩ := Bool.and_eq_true_iff.1 hf
    exact (closed h).trans (congrArg _ (turn h.1.1 (ihf hf h.1.1) (ihg hg h.1.2)))
  | disj _ _ | imp _ _ | iff _ _ | ag _ | ef _ | af _ | au _ _ => cases hf

end System

/-! ## The books -/

/-- The bounds of exactly the formulas `keys` are recorded, with all that their
evaluation records, and besides `base` lookups each has taken its own. -/
structure Store.Balances (sys : System) (base : UInt64) (keys : Finset Formula) (store : Store) :
    Prop where
  faithful : store.Faithful sys
  mem_iff : ∀ g, g ∈ store.bounds ↔ g ∈ keys
  closed : ∀ g ∈ keys, sys.entries g ⊆ keys
  lookups : store.lookups = base + .ofNat (∑ g ∈ keys, sys.cost g)

theorem add_ofNat_zero (base : UInt64) : base + .ofNat 0 = base := UInt64.add_zero base

namespace Store.Balances

variable {sys : System} {base : UInt64} {keys : Finset Formula} {store : Store} {f : Formula}

theorem size_eq (h : store.Balances sys base keys) : store.bounds.size = keys.card := by
  have hkeys : store.bounds.keys.toFinset = keys := by
    ext g
    rw [List.mem_toFinset, Std.HashMap.mem_keys, h.mem_iff]
  rw [← hkeys, List.toFinset_card_of_nodup Std.HashMap.nodup_keys, Std.HashMap.length_keys]

theorem report (h : store.Balances sys base keys) (e : Event) :
    ({ store with log := store.log.push e } : Store).Balances sys base keys :=
  ⟨⟨h.faithful.bounds, h.faithful.cores⟩, h.mem_iff, h.closed, h.lookups⟩

theorem count (h : store.Balances sys base keys) (lookups : Nat) :
    ({ store with lookups := store.lookups + .ofNat lookups } : Store).Balances sys
      (base + .ofNat lookups) keys := by
  refine ⟨⟨h.faithful.bounds, h.faithful.cores⟩, h.mem_iff, h.closed, ?_⟩
  dsimp only
  rw [h.lookups, UInt64.add_assoc, UInt64.add_comm (.ofNat _), ← UInt64.add_assoc]

/-- A new entry, with its operands recorded and its lookups made, settles the account. -/
theorem record {b : Bounds} (h : store.Balances sys (base + .ofNat (sys.cost f)) keys)
    (hf : f.isCore = true) (hb : (sys.evaluate f).uncached = .ok b) (hnew : f ∉ keys)
    (hentries : sys.entries f ⊆ insert f keys) :
    ({ store with bounds := store.bounds.insert f b } : Store).Balances sys base
      (insert f keys) := by
  have hensures : (Access.record f b (.done b)).Ensures sys (fun _ _ => True) [] :=
    ⟨hf, hb, trivial⟩
  refine ⟨(hensures.step h.faithful (by simp)).1, fun g => ?_, fun g hg => ?_, ?_⟩
  · rw [Std.HashMap.mem_insert, h.mem_iff, Finset.mem_insert, beq_iff_eq, eq_comm]
  · rcases Finset.mem_insert.1 hg with rfl | hg
    · exact hentries
    · exact (h.closed g hg).trans (Finset.subset_insert f keys)
  · rw [Finset.sum_insert hnew, UInt64.ofNat_add, ← UInt64.add_assoc]
    exact h.lookups

theorem recordCore (h : store.Balances sys base keys) (f : Formula) :
    ({ store with cores := store.cores.insert f f.toCore } : Store).Balances sys base keys := by
  have hensures : (Access.recordCore f f.toCore (.done f)).Ensures sys (fun _ _ => True) [] :=
    ⟨rfl, trivial⟩
  exact ⟨(hensures.step h.faithful (by simp)).1, h.mem_iff, h.closed, h.lookups⟩

end Store.Balances

/-! ## Programs that keep the books -/

namespace Access

variable {α β : Type} {sys : System} {new more : Finset Formula} {work extra : Nat}
  {p : Access α} {f : Formula}

/-- The books at the end of a run. After a fault, nobody knows how many lookups there were
besides those that the entries have taken. -/
def Accounts (sys : System) (base : UInt64) (keys : Finset Formula) :
    Except Fault α × Store → Prop
  | (.ok _, store) => store.Balances sys base keys
  | (.error _, store) => ∃ base, store.Balances sys base keys

/-- Whatever is in the store, the program leaves the entries `new` there besides, and makes
`work` lookups more than these cost if it ends with a value. -/
def Adds (sys : System) (new : Finset Formula) (work : Nat) (p : Access α) : Prop :=
  ∀ (base : UInt64) (keys : Finset Formula) (store : Store), store.Balances sys base keys →
    Accounts sys (base + .ofNat work) (keys ∪ new) (p.run store)

theorem Accounts.exists_balances {base : UInt64} {keys : Finset Formula}
    {ended : Except Fault α × Store} (h : Accounts sys base keys ended) :
    ∃ base, ended.2.Balances sys base keys := by
  obtain ⟨outcome, last⟩ := ended
  cases outcome with
  | ok value => exact ⟨base, h⟩
  | error fault => exact h

theorem Accounts.balances {base : UInt64} {keys : Finset Formula}
    {ended : Except Fault α × Store} {value : α} (h : Accounts sys base keys ended)
    (hvalue : ended.1 = .ok value) : ended.2.Balances sys base keys := by
  obtain ⟨outcome, last⟩ := ended
  obtain rfl : outcome = .ok value := hvalue
  exact h

theorem Adds.done (value : α) : (done value).Adds sys ∅ 0 := by
  intro base keys store h
  rw [Finset.union_empty, add_ofNat_zero]
  exact h

theorem Adds.ofExcept (x : Except Fault α) : (ofExcept x).Adds sys ∅ 0 := by
  cases x with
  | ok value => exact .done value
  | error fault =>
    intro base keys store h
    rw [Finset.union_empty]
    exact ⟨base, h⟩

theorem Adds.report (h : p.Adds sys new work) (e : Event) : (report e p).Adds sys new work :=
  fun base keys _ hs => h base keys _ (hs.report e)

theorem Adds.count (h : p.Adds sys new work) (lookups : Nat) :
    (count lookups p).Adds sys new (lookups + work) := by
  intro base keys store hs
  rw [UInt64.ofNat_add, ← UInt64.add_assoc]
  exact h _ keys _ (hs.count lookups)

/-- Programs in a row, the first of which ends with a value. -/
theorem Adds.bind {k : α → Access β} {value : α} (h : p.Adds sys new work)
    (hvalue : ∀ store, store.Faithful sys → (p.run store).1 = .ok value)
    (hk : (k value).Adds sys more extra) : (p >>= k).Adds sys (new ∪ more) (work + extra) := by
  intro base keys store hs
  have hrun := h base keys store hs
  have hfst := hvalue store hs.faithful
  rw [run_bind]
  generalize p.run store = ended at hrun hfst
  obtain ⟨outcome, last⟩ := ended
  obtain rfl : outcome = .ok value := hfst
  rw [← Finset.union_assoc, UInt64.ofNat_add, ← UInt64.add_assoc]
  exact hk _ _ last hrun

/-- Programs in a row, the first of which may break off. The second one adds no entries. -/
theorem Adds.bind_empty {k : α → Access β} (h : p.Adds sys new work)
    (hk : ∀ store value, store.Faithful sys → (p.run store).1 = .ok value →
      (k value).Adds sys ∅ extra) : (p >>= k).Adds sys new (work + extra) := by
  intro base keys store hs
  have hrun := h base keys store hs
  have hnext := hk store
  rw [run_bind]
  generalize p.run store = ended at hrun hnext
  obtain ⟨outcome, last⟩ := ended
  cases outcome with
  | ok value =>
    rw [← Finset.union_empty (keys ∪ new), UInt64.ofNat_add, ← UInt64.add_assoc]
    exact hnext value hs.faithful rfl _ _ last hrun
  | error fault => exact hrun

/-- Programs in a row, the first of which breaks off. -/
theorem Adds.bind_error {k : α → Access β} {fault : Fault} (h : p.Adds sys new work)
    (hfault : ∀ store, store.Faithful sys → (p.run store).1 = .error fault) :
    (p >>= k).Adds sys new extra := by
  intro base keys store hs
  have hrun := h base keys store hs
  have hfst := hfault store hs.faithful
  rw [run_bind]
  generalize p.run store = ended at hrun hfst
  obtain ⟨outcome, last⟩ := ended
  obtain rfl : outcome = .error fault := hfst
  exact hrun

theorem Adds.counted (lookups : Nat) (x : Except Fault α) :
    (counted lookups x).Adds sys ∅ lookups := by
  have hvalue : ∀ value : α, (Access.count lookups (.done value)).Adds sys ∅ lookups :=
    fun value => (Adds.done value).count lookups
  have hadds := (Adds.ofExcept x).bind_empty fun _ value _ _ => hvalue value
  rwa [Nat.zero_add] at hadds

theorem Adds.leastFixpoint (rule : Rule) (base candidates : Region) :
    (rule.leastFixpoint base candidates).Adds sys ∅ (rule.least base candidates).lookups := by
  rw [← Nat.zero_add (rule.least base candidates).lookups]
  exact (Adds.ofExcept _).bind_empty fun _ region _ _ => ((Adds.done region).report _).count _

theorem Adds.greatestFixpoint (rule : Rule) (candidates : Region) :
    (sys.greatestFixpoint rule candidates).Adds sys ∅
      (rule.greatest candidates sys.states).lookups := by
  by_cases h : sys.size < setLimit
  · rw [System.greatestFixpoint, System.everyState_okIf.ok h]
    exact ((Adds.done _).report _).count _
  · rw [System.greatestFixpoint]
    exact (Adds.ofExcept _).bind_error fun _ _ => by rw [System.everyState_okIf.error h]; rfl

theorem reuse_run_of_some {b : Bounds} {p : Access Bounds} {store : Store}
    (h : store.bounds[f]? = some b) :
    (reuse f p).run store = (.ok b, { store with log := store.log.push (.recalled f) }) := by
  simp only [reuse, run, h]

theorem reuse_run_of_ok {b : Bounds} {p : Access Bounds} {store last : Store}
    (h : store.bounds[f]? = none) (hp : p.run store = (.ok b, last)) : (reuse f p).run store =
      (.ok b, { last with
        bounds := last.bounds.insert f b
        log := last.log.push (.evaluated f b.lower.size (b.upper.size - b.lower.size)) }) := by
  simp only [reuse, run, h, run_bind, hp]

theorem reuse_run_of_error {fault : Fault} {p : Access Bounds} {store last : Store}
    (h : store.bounds[f]? = none) (hp : p.run store = (.error fault, last)) :
    (reuse f p).run store = (.error fault, last) := by
  simp only [reuse, run, h, run_bind, hp]

theorem Honest.run_fst {store : Store} (h : p.Honest sys) (hs : store.Faithful sys) :
    (p.run store).1 = p.uncached := by
  have hensures := h [] (fun outcome _ => outcome = p.uncached) fun _ _ => rfl
  obtain ⟨-, -, -, hfst⟩ := hensures.run hs (by simp)
  exact hfst

end Access

/-! ## The evaluator -/

namespace System

open Access

variable {sys : System} {f g : Formula} {new more : Finset Formula} {work : Nat}

theorem evaluate_run_fst {store : Store} (hf : f.isCore = true) (hs : store.Faithful sys) :
    ((sys.evaluate f).run store).1 = (sys.evaluate f).uncached := by
  have honest : (sys.evaluate f).Honest sys :=
    fun _ _ h => evaluate_ensures hf fun later hlater _ => h later hlater
  exact honest.run_fst hs

/-- **A formula is recalled, or computed for the first time.** The computation adds the
entries of the operands and makes the lookups of the formula itself, and then its result
is recorded. -/
theorem adds_reuse {p : Access Bounds} (hv : sys.Valid) (hf : f.isCore = true)
    (heval : sys.evaluate f = reuse f p) (hentries : sys.entries f = sys.close f new)
    (hnew : f ∉ new) (hp : p.Adds sys new (sys.cost f)) :
    (sys.evaluate f).Adds sys (sys.entries f) 0 := by
  intro base keys store hs
  have hokIf := evaluate_okIf hv hf
  have hfst : ((reuse f p).run store).1 = (sys.evaluate f).uncached := by
    rw [← heval]
    exact evaluate_run_fst hf hs.faithful
  rw [heval, add_ofNat_zero]
  cases hfound : store.bounds[f]? with
  | some b =>
    -- with the formula, the store has all its entries
    have hmem : f ∈ store.bounds := Std.HashMap.mem_iff_isSome_getElem?.2 (by rw [hfound]; rfl)
    rw [reuse_run_of_some hfound, Finset.union_eq_left.2 (hs.closed f ((hs.mem_iff f).1 hmem))]
    exact hs.report _
  | none =>
    have hmiss : f ∉ keys := fun h => by
      have hsome := Std.HashMap.mem_iff_isSome_getElem?.1 ((hs.mem_iff f).2 h)
      rw [hfound] at hsome
      cases hsome
    have hkeys : f ∉ keys ∪ new := Finset.notMem_union.2 ⟨hmiss, hnew⟩
    have hrun := hp base keys store hs
    rcases hended : p.run store with ⟨outcome, last⟩
    rw [hended] at hrun
    cases outcome with
    | error fault =>
      rw [reuse_run_of_error hfound hended] at hfst ⊢
      have hafford : ¬sys.Affords f := fun h => by
        rw [hokIf.ok h] at hfst
        cases hfst
      rw [hentries, close, if_neg hafford]
      exact hrun
    | ok b =>
      rw [reuse_run_of_ok hfound hended] at hfst ⊢
      have hafford : sys.Affords f := Classical.byContradiction fun h => by
        rw [hokIf.error h] at hfst
        cases hfst
      rw [close, if_pos hafford] at hentries
      have hclosed : sys.entries f ⊆ insert f (keys ∪ new) := by
        rw [hentries]
        exact Finset.insert_subset_insert f Finset.subset_union_right
      rw [hentries, Finset.union_insert]
      exact (hrun.report _).record hf hfst.symm hkeys hclosed

theorem eq_bounds_of_evaluate_run {store : Store} {b : Bounds} (hv : sys.Valid)
    (hf : f.isCore = true) (hs : store.Faithful sys)
    (hb : ((sys.evaluate f).run store).1 = .ok b) : b = sys.bounds f := by
  have hokIf := evaluate_okIf hv hf
  rw [evaluate_run_fst hf hs] at hb
  by_cases h : sys.Affords f
  · rw [hokIf.ok h] at hb
    exact (Except.ok.inj hb).symm
  · rw [hokIf.error h] at hb
    cases hb

/-- The evaluation of an operand, and what is done with its bounds if it has any. -/
theorem adds_unary {k : Bounds → Access Bounds} (hv : sys.Valid) (hf : f.isCore = true)
    (ih : (sys.evaluate f).Adds sys (sys.entries f) 0)
    (hk : (k (sys.bounds f)).Adds sys ∅ work) :
    (sys.evaluate f >>= k).Adds sys (sys.entries f) work := by
  rw [← Nat.zero_add work]
  exact ih.bind_empty fun store b hs hb => eq_bounds_of_evaluate_run hv hf hs hb ▸ hk

theorem adds_binary {k : Bounds → Bounds → Access Bounds} (hv : sys.Valid)
    (hcore : (f.isCore && g.isCore) = true)
    (ihf : f.isCore = true → (sys.evaluate f).Adds sys (sys.entries f) 0)
    (ihg : g.isCore = true → (sys.evaluate g).Adds sys (sys.entries g) 0)
    (hk : (k (sys.bounds f) (sys.bounds g)).Adds sys ∅ work) :
    (sys.evaluate f >>= fun b => sys.evaluate g >>= k b).Adds sys
      (sys.inTurn f (sys.entries f) (sys.entries g)) work := by
  obtain ⟨hf, hg⟩ := Bool.and_eq_true_iff.1 hcore
  have hokIf := evaluate_okIf hv hf
  by_cases h : sys.Affords f
  · rw [inTurn, if_pos h, ← Nat.zero_add work]
    exact (ihf hf).bind (fun store hs => (evaluate_run_fst hf hs).trans (hokIf.ok h))
      (adds_unary hv hg (ihg hg) hk)
  · rw [inTurn, if_neg h]
    exact (ihf hf).bind_error fun store hs => (evaluate_run_fst hf hs).trans (hokIf.error h)

theorem adds_evaluateAtom (sys : System) (name : String) :
    (sys.evaluateAtom name).Adds sys ∅ 0 := by
  unfold evaluateAtom
  split
  · exact .done _
  · exact (Adds.done _).report _

theorem adds_evaluateAlways (sys : System) (f : Formula) :
    (sys.evaluateAlways (sys.bounds f)).Adds sys ∅ (sys.cost (.eg f)) :=
  (Adds.greatestFixpoint _ _).bind_empty fun _ _ _ _ =>
    (Adds.greatestFixpoint _ _).bind_empty fun _ _ _ _ => .ofExcept _

theorem adds_evaluateUntil (sys : System) (f g : Formula) :
    (sys.evaluateUntil (sys.bounds f) (sys.bounds g)).Adds sys ∅ (sys.cost (.eu f g)) :=
  (Adds.leastFixpoint _ _ _).bind_empty fun _ _ _ _ =>
    (Adds.leastFixpoint _ _ _).bind_empty fun _ _ _ _ => .ofExcept _

/-- The evaluation of a core formula adds its entries to the store, and no lookups but
theirs. -/
theorem adds_evaluate (hv : sys.Valid) (hf : f.isCore = true) :
    (sys.evaluate f).Adds sys (sys.entries f) 0 := by
  -- no evaluation of an operand comes across the formula itself
  have hbelow : ∀ {f g : Formula}, sizeOf g < sizeOf f → f ∉ sys.entries g :=
    fun hlt hmem => Nat.not_lt.2 (sizeOf_le_of_mem_entries hmem) hlt
  have hpair : ∀ {f g op : Formula}, sizeOf f + sizeOf g < sizeOf op →
      op ∉ sys.inTurn f (sys.entries f) (sys.entries g) := fun hlt hmem =>
    (Finset.mem_union.1 (inTurn_subset _ _ _ _ hmem)).elim (hbelow (by omega)) (hbelow (by omega))
  induction f with
  | tt =>
    refine adds_reuse hv rfl rfl rfl (Finset.notMem_empty _) ?_
    exact (Adds.ofExcept _).bind_empty fun _ states _ _ => .done _
  | ff => exact adds_reuse hv rfl rfl rfl (Finset.notMem_empty _) (.done _)
  | atom name =>
    exact adds_reuse hv rfl rfl rfl (Finset.notMem_empty _) (adds_evaluateAtom sys name)
  | neg f ih =>
    refine adds_reuse hv hf rfl rfl (hbelow (by simp)) ?_
    exact adds_unary hv hf (ih hf) (.ofExcept _)
  | conj f g ihf ihg =>
    refine adds_reuse hv hf rfl rfl (hpair (by simp [Nat.add_assoc])) ?_
    exact adds_binary hv hf ihf ihg (.ofExcept _)
  | ex f ih =>
    by_cases hne : f = .tt
    · subst hne
      exact adds_reuse hv rfl rfl rfl (Finset.notMem_empty _) (.counted _ _)
    · refine adds_reuse hv hf (evaluate_ex hne) (entries_ex hne) (hbelow (by simp)) ?_
      exact adds_unary hv hf (ih hf) (.counted _ _)
  | ax f ih =>
    refine adds_reuse hv hf rfl rfl (hbelow (by simp)) ?_
    exact adds_unary hv hf (ih hf) (.counted _ _)
  | eg f ih =>
    refine adds_reuse hv hf rfl rfl (hbelow (by simp)) ?_
    exact adds_unary hv hf (ih hf) (adds_evaluateAlways sys f)
  | eu f g ihf ihg =>
    refine adds_reuse hv hf rfl rfl (hpair (by simp [Nat.add_assoc])) ?_
    exact adds_binary hv hf ihf ihg (adds_evaluateUntil sys f g)
  | disj _ _ | imp _ _ | iff _ _ | ag _ | ef _ | af _ | au _ _ => cases hf

/-! ## Checks -/

theorem adds_coreForm (sys : System) (f : Formula) : (coreForm f).Adds sys ∅ 0 := by
  intro base keys store h
  rw [Finset.union_empty, coreForm, run, add_ofNat_zero]
  cases store.cores[f]? with
  | some core => exact h
  | none => exact h.recordCore f

theorem coreForm_run_fst {store : Store} (hs : store.Faithful sys) (f : Formula) :
    ((coreForm f).run store).1 = .ok f.toCore := by
  rw [coreForm, run]
  cases hfound : store.cores[f]? with
  | some core => exact congrArg Except.ok (hs.cores hfound)
  | none => rfl

theorem adds_check (hv : sys.Valid) (f : Formula) :
    (sys.check f).Adds sys (sys.entries f.toCore) 0 := by
  have hadds := (adds_coreForm sys f).bind (fun _ hs => coreForm_run_fst hs f)
    (adds_evaluate hv f.isCore_toCore)
  rwa [Finset.empty_union] at hadds

theorem check_run_fst_eq_ok {store : Store} (hv : sys.Valid) (hs : store.Faithful sys)
    (h : sys.Affords f.toCore) : ((sys.check f).run store).1 = .ok (sys.bounds f.toCore) :=
  (Checker.check_run_fst hs f).trans ((evaluate_okIf hv f.isCore_toCore).ok h)

theorem balances_check {base : UInt64} {keys : Finset Formula} {store : Store} (hv : sys.Valid)
    (hafford : sys.Affords f.toCore) (h : store.Balances sys base keys) :
    ((sys.check f).run store).2.Balances sys base (keys ∪ sys.entries f.toCore) := by
  rw [← add_ofNat_zero base]
  exact (adds_check hv f base keys store h).balances (check_run_fst_eq_ok hv h.faithful hafford)

/-- The formulas whose bounds are recorded when all of these are checked. -/
def entriesOf (sys : System) (fs : List Formula) : Finset Formula :=
  fs.toFinset.biUnion fun f => sys.entries f.toCore

theorem entriesOf_cons (sys : System) (f : Formula) (fs : List Formula) :
    sys.entriesOf (f :: fs) = sys.entries f.toCore ∪ sys.entriesOf fs := by
  rw [entriesOf, List.toFinset_cons, Finset.biUnion_insert, entriesOf]

/-- Neither order nor repetition matters. -/
theorem entriesOf_congr {fs fs' : List Formula} (h : ∀ f, f ∈ fs' ↔ f ∈ fs) :
    sys.entriesOf fs' = sys.entriesOf fs := by
  have hset : fs'.toFinset = fs.toFinset := by
    ext f
    rw [List.mem_toFinset, List.mem_toFinset, h]
  rw [entriesOf, hset, entriesOf]

theorem entriesOf_eq_visited {fs : List Formula} (h : ∀ f ∈ fs, sys.Affords f.toCore) :
    sys.entriesOf fs = fs.toFinset.biUnion fun f => f.toCore.visited :=
  Finset.biUnion_congr rfl fun f hf =>
    entries_eq_visited f.isCore_toCore (h f (List.mem_toFinset.1 hf))

/-- Formulas that are checked one after another, if no check breaks off. -/
theorem balances_checkJobs {base : UInt64} {keys : Finset Formula} {store : Store} (hv : sys.Valid)
    (results : Results) {jobs : List (String × Formula)}
    (hafford : ∀ job ∈ jobs, sys.Affords job.2.toCore) (h : store.Balances sys base keys) :
    ((Batch.checkJobs sys results jobs).run store).2.Balances sys base
      (keys ∪ sys.entriesOf (jobs.map (·.2))) := by
  induction jobs generalizing results keys store with
  | nil => exact (Finset.union_empty keys).symm ▸ h
  | cons job jobs ih =>
    obtain ⟨name, f⟩ := job
    obtain ⟨hf, hjobs⟩ := List.forall_mem_cons.1 hafford
    have hreported := h.report (.checking name f)
    have hstep := balances_check hv hf hreported
    have hfst := check_run_fst_eq_ok hv hreported.faithful hf
    simp only [Batch.checkJobs, run, run_bind]
    generalize (sys.check f).run _ = ended at hstep hfst ⊢
    obtain ⟨outcome, last⟩ := ended
    obtain rfl : outcome = .ok (sys.bounds f.toCore) := hfst
    rw [List.map_cons, entriesOf_cons, ← Finset.union_assoc]
    exact ih _ hjobs hstep

end System

namespace Session

/-- Check formulas one after another, whether or not some of the checks break off. -/
def checkAll (session : Session) (fs : List Formula) : Session :=
  fs.foldl (fun session f => (session.check f).2) session

theorem checkAll_system (session : Session) (fs : List Formula) :
    (session.checkAll fs).system = session.system := by
  induction fs generalizing session with
  | nil => rfl
  | cons f fs ih => exact ih (session.check f).2

theorem balances_fresh (sys : System) (lookups : UInt64) (log : Array Event) :
    ({ lookups, log } : Store).Balances sys lookups ∅ where
  faithful := ⟨(Store.faithful_empty sys).bounds, (Store.faithful_empty sys).cores⟩
  mem_iff g := by simp
  closed g hg := by simp at hg
  lookups := (add_ofNat_zero lookups).symm

/-- The entries of all formulas are recorded, even if some of the checks break off. -/
theorem exists_balances_checkAll (session : Session) (hv : session.system.Valid)
    {keys : Finset Formula} (h : ∃ base, session.store.Balances session.system base keys)
    (fs : List Formula) :
    ∃ base, (session.checkAll fs).store.Balances session.system base
      (keys ∪ session.system.entriesOf fs) := by
  induction fs generalizing session keys with
  | nil => exact (Finset.union_empty keys).symm ▸ h
  | cons f fs ih =>
    obtain ⟨base, h⟩ := h
    have hstep := (System.adds_check hv f base keys _ h).exists_balances
    rw [System.entriesOf_cons, ← Finset.union_assoc]
    exact ih (session.check f).2 hv hstep

/-- If none of the checks breaks off, there are no other lookups than those of the entries. -/
theorem balances_checkAll (session : Session) (hv : session.system.Valid) {base : UInt64}
    {keys : Finset Formula} (h : session.store.Balances session.system base keys)
    {fs : List Formula} (hafford : ∀ f ∈ fs, session.system.Affords f.toCore) :
    (session.checkAll fs).store.Balances session.system base
      (keys ∪ session.system.entriesOf fs) := by
  induction fs generalizing session keys with
  | nil => exact (Finset.union_empty keys).symm ▸ h
  | cons f fs ih =>
    obtain ⟨hf, hfs⟩ := List.forall_mem_cons.1 hafford
    rw [System.entriesOf_cons, ← Finset.union_assoc]
    exact ih (session.check f).2 hv (System.balances_check hv hf h) hfs

variable {sys : System} {fs : List Formula}

theorem exists_balances_checkAll_fresh (hv : sys.Valid) (lookups : UInt64) (log : Array Event)
    (fs : List Formula) : ∃ base, (checkAll ⟨sys, { lookups, log }⟩ fs).store.Balances sys base
      (sys.entriesOf fs) := by
  have h := exists_balances_checkAll ⟨sys, { lookups, log }⟩ hv
    ⟨lookups, balances_fresh sys lookups log⟩ fs
  rwa [Finset.empty_union] at h

theorem balances_checkAll_fresh (hv : sys.Valid) (lookups : UInt64) (log : Array Event)
    (hafford : ∀ f ∈ fs, sys.Affords f.toCore) :
    (checkAll ⟨sys, { lookups, log }⟩ fs).store.Balances sys lookups (sys.entriesOf fs) := by
  have h := balances_checkAll ⟨sys, { lookups, log }⟩ hv (balances_fresh sys lookups log) hafford
  rwa [Finset.empty_union] at h

/-- A batch that is checked in order does the same as the single checks. -/
theorem balances_inOrder_fresh (hv : sys.Valid) (lookups : UInt64) (log : Array Event)
    (batch : Batch) (hafford : ∀ job ∈ batch.jobs, sys.Affords job.2.toCore) :
    (execute ⟨sys, { lookups, log }⟩ (batch.inOrder sys)).2.store.Balances sys lookups
      (sys.entriesOf (batch.jobs.map (·.2))) := by
  have hreported := (balances_fresh sys lookups log).report (.checkingInOrder batch.jobs.length)
  have hlast := System.balances_checkJobs hv ∅ hafford hreported
  rwa [Finset.empty_union] at hlast

/-- **What any checks leave in the store, and what they cost.** With a fresh store, and
whatever was counted before, the bounds of exactly the entries of the checked formulas are
recorded, so order and repetition make no difference. Where no check breaks off, which is so
on every system whose states fit into a set, the entries are all visited formulas, the
lookups grow by the sum of their costs, in a word that may overflow, order and repetition
make no difference to that either, and a batch of the same formulas that is checked in order
leaves the same. A further check breaks off exactly if the system does not afford it. -/
theorem recorded_and_lookups_after_checks (hv : sys.Valid) (lookups : UInt64) (log : Array Event)
    (fs : List Formula) :
    let start : Session := ⟨sys, { lookups, log }⟩
    let last := start.checkAll fs
    (∀ g, g ∈ last.store.bounds ↔ g ∈ sys.entriesOf fs) ∧
    last.recorded = (sys.entriesOf fs).card ∧
    (∀ fs', (∀ f, f ∈ fs' ↔ f ∈ fs) →
      (∀ g, g ∈ (start.checkAll fs').store.bounds ↔ g ∈ last.store.bounds) ∧
      (start.checkAll fs').recorded = last.recorded) ∧
    ((∀ f ∈ fs, sys.Affords f.toCore) →
      sys.entriesOf fs = (fs.toFinset.biUnion fun f => f.toCore.visited) ∧
      last.lookups = start.lookups + .ofNat (∑ g ∈ sys.entriesOf fs, sys.cost g) ∧
      (∀ fs', (∀ f, f ∈ fs' ↔ f ∈ fs) → (start.checkAll fs').lookups = last.lookups) ∧
      ∀ batch : Batch, (∀ f, f ∈ batch.jobs.map (·.2) ↔ f ∈ fs) →
        let validated := (start.execute (batch.inOrder sys)).2
        (∀ g, g ∈ validated.store.bounds ↔ g ∈ last.store.bounds) ∧
        validated.recorded = last.recorded ∧ validated.lookups = last.lookups) ∧
    (∀ f, System.OkIf (sys.Affords f.toCore) (last.check f).1 (sys.bounds f.toCore)) ∧
    (sys.size < setLimit → ∀ f, sys.Affords f) := by
  intro start last
  obtain ⟨base, hlast⟩ := exists_balances_checkAll_fresh hv lookups log fs
  refine ⟨hlast.mem_iff, hlast.size_eq, fun fs' h => ?_, fun hafford => ?_, fun f => ?_,
    System.affords_of_fits hv⟩
  · obtain ⟨base', hother⟩ := exists_balances_checkAll_fresh hv lookups log fs'
    rw [System.entriesOf_congr h] at hother
    exact ⟨fun g => (hother.mem_iff g).trans (hlast.mem_iff g).symm,
      hother.size_eq.trans hlast.size_eq.symm⟩
  · have hpaid : last.store.Balances sys lookups (sys.entriesOf fs) :=
      balances_checkAll_fresh hv lookups log hafford
    refine ⟨System.entriesOf_eq_visited hafford, hpaid.lookups, fun fs' h => ?_, fun batch h => ?_⟩
    · have hother := balances_checkAll_fresh hv lookups log fun f hf => hafford f ((h f).1 hf)
      rw [System.entriesOf_congr h] at hother
      exact hother.lookups.trans hpaid.lookups.symm
    · have hother := balances_inOrder_fresh hv lookups log batch fun job hjob =>
        hafford job.2 ((h job.2).1 (List.mem_map_of_mem hjob))
      rw [System.entriesOf_congr h] at hother
      exact ⟨fun g => (hother.mem_iff g).trans (hlast.mem_iff g).symm,
        hother.size_eq.trans hlast.size_eq.symm, hother.lookups.trans hpaid.lookups.symm⟩
  · have hcheck : (last.check f).1 = (sys.evaluate f.toCore).uncached := by
      rw [check, checkAll_system start fs]
      exact Checker.check_run_fst hlast.faithful f
    rw [hcheck]
    exact System.evaluate_okIf hv f.isCore_toCore

theorem recorded_and_lookups_after_checks_ring :
    let fs : List Formula := [.ef (.atom "p"), .conj (.ex .tt) (.ef (.atom "p")), .ef (.atom "p")]
    let last := checkAll ⟨.ring 3, { lookups := 5 }⟩ fs
    (System.ring 3).Valid ∧ last.recorded = 5 ∧
    last.lookups = 5 + .ofNat (∑ g ∈ (System.ring 3).entriesOf fs, (System.ring 3).cost g) ∧
    last.lookups = (checkAll ⟨.ring 3, { lookups := 5 }⟩
      [.conj (.ex .tt) (.ef (.atom "p")), .ef (.atom "p")]).lookups := by
  intro fs last
  have hv : (System.ring 3).Valid := System.violation?_eq_none.1 (by decide +kernel)
  have hcard : ((System.ring 3).entriesOf fs).card = 5 := by decide +kernel
  obtain ⟨-, hrecorded, -, hpaid, -, hfits⟩ := recorded_and_lookups_after_checks hv 5 #[] fs
  obtain ⟨-, hlookups, hsame, -⟩ := hpaid fun f _ => hfits (by decide +kernel) f.toCore
  have hagain := hsame [.conj (.ex .tt) (.ef (.atom "p")), .ef (.atom "p")] (by simp [fs, or_comm])
  exact ⟨hv, hrecorded.trans hcard, hlookups, hagain.symm⟩

/-- On a system that is too large, the check breaks off at its second operand: of the three
visited formulas only the first one is recorded. -/
theorem vast_entries_missing :
    System.vast.Valid ∧ System.vast.size < 18446744073709551615 ∧
    (Formula.conj (.atom "p") .tt).toCore.visited.card = 3 ∧
    (checkAll ⟨.vast, {}⟩ [.conj (.atom "p") .tt]).recorded = 1 := by
  refine ⟨System.vast_valid, by decide, by decide, ?_⟩
  obtain ⟨base, hlast⟩ :=
    exists_balances_checkAll_fresh System.vast_valid 0 #[] [.conj (.atom "p") .tt]
  exact hlast.size_eq.trans (by decide +kernel)

end Session

end BranchingTime
