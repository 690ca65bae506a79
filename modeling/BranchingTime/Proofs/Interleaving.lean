/-
Programs that share a store, one access at a time. `step` performs the first
access of a program; between two steps of one program, others may take theirs.

A store is `Faithful` if all its entries are what a computation without a store
gives. `Ensures` says of a program that it writes faithful entries only, and how
it ends, provided that the entries it reads are faithful and no entry is ever
taken away: whoever else uses the store, and in whatever order the accesses
happen, as long as all keep to the same rule (`Ensures.step`). Along the way it
keeps account of the entries that the program has seen or written, so that the
end of a program can say what is in the store by then.

The evaluator keeps to the rule (`evaluate_ensures`, `check_ensures`): it ends as
it would without a store, and after a success its formula is recorded.
-/
import BranchingTime.Proofs.Evaluation

namespace BranchingTime

namespace Store

/-- The place of an entry in the store. -/
inductive Entry where
  | bounds (f : Formula)
  | core (f : Formula)

/-- The entry has been written. -/
def Has (store : Store) : Entry → Prop
  | .bounds f => f ∈ store.bounds
  | .core f => f ∈ store.cores

/-- The recorded bounds are those of core formulas, and the recorded core forms
are the core forms. -/
structure Faithful (sys : System) (store : Store) : Prop where
  bounds : ∀ {f : Formula} {b : Bounds}, store.bounds[f]? = some b →
    f.isCore = true ∧ (sys.evaluate f).uncached = .ok b
  cores : ∀ {f core : Formula}, store.cores[f]? = some core → core = f.toCore

theorem faithful_empty (sys : System) : Faithful sys {} := by
  constructor <;> intro f _ h <;> simp at h

end Store

namespace Access

variable {α β : Type} {sys : System} {store : Store} {p : Access α} {known : List Store.Entry}
  {post : Except Fault α → List Store.Entry → Prop}

/-- Perform the first access of a program. A program that has ended stays as it
is. -/
def step : Access α → Store → Access α × Store
  | done value, store => (done value, store)
  | fail fault, store => (fail fault, store)
  | fetch f next, store => (next store.bounds[f]?, store)
  | record f b next, store => (next, { store with bounds := store.bounds.insert f b })
  | fetchCore f next, store => (next store.cores[f]?, store)
  | recordCore f core next, store => (next, { store with cores := store.cores.insert f core })
  | count lookups next, store => (next, { store with lookups := store.lookups + .ofNat lookups })
  | report e next, store => (next, { store with log := store.log.push e })

/-- How a program ended, if it has. -/
def outcome? : Access α → Option (Except Fault α)
  | done value => some (.ok value)
  | fail fault => some (.error fault)
  | fetch _ _ | record _ _ _ | fetchCore _ _ | recordCore _ _ _ | count _ _ | report _ _ => none

theorem step_has {e : Store.Entry} (p : Access α) (h : store.Has e) : (p.step store).2.Has e := by
  cases p <;> cases e <;> simp_all [step, Store.Has]

theorem outcome?_step {outcome : Except Fault α} (h : p.outcome? = some outcome) :
    (p.step store).1.outcome? = some outcome := by
  cases p <;> first | exact h | cases h

/-! ## What a program ensures -/

/-- The program writes faithful entries only, and ends so that `post` holds of its
outcome and of the entries known to be in the store, which are `known` at the
start. Entries that it reads are faithful. -/
def Ensures (sys : System) (post : Except Fault α → List Store.Entry → Prop) :
    Access α → List Store.Entry → Prop
  | done value, known => post (.ok value) known
  | fail fault, known => post (.error fault) known
  | fetch f next, known =>
    (next none).Ensures sys post known ∧
      ∀ b, f.isCore = true → (sys.evaluate f).uncached = .ok b →
        (next (some b)).Ensures sys post (.bounds f :: known)
  | record f b next, known =>
    f.isCore = true ∧ (sys.evaluate f).uncached = .ok b ∧
      next.Ensures sys post (.bounds f :: known)
  | fetchCore f next, known =>
    (next none).Ensures sys post known ∧ (next (some f.toCore)).Ensures sys post (.core f :: known)
  | recordCore f core next, known => core = f.toCore ∧ next.Ensures sys post (.core f :: known)
  | count _ next, known => next.Ensures sys post known
  | report _ next, known => next.Ensures sys post known

theorem Ensures.bind {k : α → Access β} {post : Except Fault β → List Store.Entry → Prop}
    (h : p.Ensures sys (fun outcome known => match outcome with
      | .ok value => (k value).Ensures sys post known
      | .error fault => post (.error fault) known) known) :
    (p >>= k).Ensures sys post known := by
  rw [bind_eq]
  induction p generalizing known with
  | done value => exact h
  | fail fault => exact h
  | fetch f next ih => exact ⟨ih none h.1, fun b hf hb => ih (some b) (h.2 b hf hb)⟩
  | record f b next ih => exact ⟨h.1, h.2.1, ih h.2.2⟩
  | fetchCore f next ih => exact ⟨ih none h.1, ih _ h.2⟩
  | recordCore f core next ih => exact ⟨h.1, ih h.2⟩
  | count lookups next ih | report e next ih => exact ih h

theorem Ensures.outcome {outcome : Except Fault α} (h : p.Ensures sys post known)
    (ho : p.outcome? = some outcome) : post outcome known := by
  cases p <;> cases ho <;> exact h

/-- **One access keeps the rule.** It leaves a faithful store faithful, and the
rest of the program ensures what the program did. -/
theorem Ensures.step (hs : store.Faithful sys) (hk : ∀ e ∈ known, store.Has e)
    (h : p.Ensures sys post known) :
    (p.step store).2.Faithful sys ∧
      ∃ known, (∀ e ∈ known, (p.step store).2.Has e) ∧ (p.step store).1.Ensures sys post known := by
  cases p with
  | done value | fail fault => exact ⟨hs, known, hk, h⟩
  | count lookups next | report e next => exact ⟨⟨hs.bounds, hs.cores⟩, known, hk, h⟩
  | fetch f next =>
    refine ⟨hs, ?_⟩
    simp only [Access.step]
    cases hb : store.bounds[f]? with
    | none => exact ⟨known, hk, h.1⟩
    | some b =>
      obtain ⟨hcore, hvalue⟩ := hs.bounds hb
      refine ⟨.bounds f :: known, List.forall_mem_cons.2 ⟨?_, hk⟩, h.2 b hcore hvalue⟩
      exact Std.HashMap.mem_iff_isSome_getElem?.2 (by simp [hb])
  | fetchCore f next =>
    refine ⟨hs, ?_⟩
    simp only [Access.step]
    cases hc : store.cores[f]? with
    | none => exact ⟨known, hk, h.1⟩
    | some core =>
      obtain rfl := hs.cores hc
      refine ⟨.core f :: known, List.forall_mem_cons.2 ⟨?_, hk⟩, h.2⟩
      exact Std.HashMap.mem_iff_isSome_getElem?.2 (by simp [hc])
  | record f b next =>
    obtain ⟨hcore, hvalue, hnext⟩ := h
    refine ⟨⟨?_, hs.cores⟩, .bounds f :: known, ?_, hnext⟩
    · intro g c hc
      simp only [Access.step, Std.HashMap.getElem?_insert, beq_iff_eq] at hc
      split at hc
      next he =>
        cases he
        cases hc
        exact ⟨hcore, hvalue⟩
      next => exact hs.bounds hc
    · refine List.forall_mem_cons.2 ⟨by simp [Access.step, Store.Has], fun e he => ?_⟩
      exact step_has (record f b next) (hk e he)
  | recordCore f core next =>
    obtain ⟨rfl, hnext⟩ := h
    refine ⟨⟨hs.bounds, ?_⟩, .core f :: known, ?_, hnext⟩
    · intro g c hc
      simp only [Access.step, Std.HashMap.getElem?_insert, beq_iff_eq] at hc
      split at hc
      next he =>
        cases he
        cases hc
        rfl
      next => exact hs.cores hc
    · refine List.forall_mem_cons.2 ⟨by simp [Access.step, Store.Has], fun e he => ?_⟩
      exact step_has (recordCore f f.toCore next) (hk e he)

/-- A whole run keeps the rule. -/
theorem Ensures.run (hs : store.Faithful sys) (hk : ∀ e ∈ known, store.Has e)
    (h : p.Ensures sys post known) :
    (p.run store).2.Faithful sys ∧
      ∃ known, (∀ e ∈ known, (p.run store).2.Has e) ∧ post (p.run store).1 known := by
  have hstep := h.step hs hk
  induction p generalizing store known with
  | done value | fail fault => exact ⟨hs, known, hk, h⟩
  | fetch f next ih | fetchCore f next ih =>
    obtain ⟨hs, known, hk, h⟩ := hstep
    exact ih _ hs hk h (h.step hs hk)
  | record f b next ih | recordCore f core next ih | count lookups next ih | report e next ih =>
    obtain ⟨hs, known, hk, h⟩ := hstep
    exact ih hs hk h (h.step hs hk)

/-! ## Programs that end as they would without a store -/

/-- The program ends as it would without a store, and forgets no entry. -/
def Honest (sys : System) (p : Access α) : Prop :=
  ∀ (known : List Store.Entry) (post : Except Fault α → List Store.Entry → Prop),
    (∀ later, known ⊆ later → post p.uncached later) → p.Ensures sys post known

theorem Honest.done (value : α) : (done value).Honest sys :=
  fun _ _ h => h _ (List.Subset.refl _)

theorem Honest.fail (fault : Fault) : (fail fault : Access α).Honest sys :=
  fun _ _ h => h _ (List.Subset.refl _)

theorem Honest.ofExcept (x : Except Fault α) : (ofExcept x).Honest sys := by
  cases x with
  | ok value => exact .done value
  | error fault => exact .fail fault

theorem Honest.count {lookups : Nat} (hp : p.Honest sys) : (count lookups p).Honest sys := hp

theorem Honest.report {e : Event} (hp : p.Honest sys) : (report e p).Honest sys := hp

theorem Honest.bind {k : α → Access β} (hp : p.Honest sys)
    (hk : ∀ value, p.uncached = .ok value → (k value).Honest sys) : (p >>= k).Honest sys := by
  intro known post h
  rw [uncached_bind] at h
  refine .bind (hp _ _ fun later hlater => ?_)
  cases hu : p.uncached with
  | ok value =>
    rw [hu] at h
    exact hk value hu _ _ fun last hlast => h last (List.Subset.trans hlater hlast)
  | error fault =>
    rw [hu] at h
    exact h later hlater

theorem Honest.counted (lookups : Nat) (x : Except Fault α) : (counted lookups x).Honest sys :=
  .bind (.ofExcept x) fun value _ => .count (.done value)

theorem Honest.leastFixpoint (rule : Rule) (base candidates : Region) :
    (rule.leastFixpoint base candidates).Honest sys :=
  .bind (.ofExcept _) fun region _ => .count (.report (.done region))

theorem Honest.greatestFixpoint (rule : Rule) (candidates : Region) :
    (sys.greatestFixpoint rule candidates).Honest sys :=
  .bind (.ofExcept _) fun _ _ => .count (.report (.done _))

/-- A computation whose result is recorded ends as it would without a store, and
after a success the result is in the store. -/
theorem reuse_ensures {f : Formula} {p : Access Bounds} {known : List Store.Entry}
    {post : Except Fault Bounds → List Store.Entry → Prop} (hf : f.isCore = true)
    (he : (sys.evaluate f).uncached = p.uncached) (hp : p.Honest sys)
    (h : ∀ later, known ⊆ later → (∀ b, p.uncached = .ok b → .bounds f ∈ later) →
      post p.uncached later) :
    (reuse f p).Ensures sys post known := by
  refine ⟨.bind (hp _ _ fun later hlater => ?_), fun b _ hb => ?_⟩
  · cases hu : p.uncached with
    | ok b =>
      rw [hu] at he h
      refine ⟨hf, he, h _ (List.subset_cons_of_subset _ hlater) fun _ _ => ?_⟩
      exact List.mem_cons_self
    | error fault =>
      rw [hu] at h
      exact h later hlater fun b hb => nomatch hb
  · rw [he] at hb
    rw [hb] at h
    exact h _ (List.subset_cons_self _ _) fun _ _ => List.mem_cons_self

theorem Honest.reuse {f : Formula} {p : Access Bounds} (hf : f.isCore = true)
    (he : (sys.evaluate f).uncached = p.uncached) (hp : p.Honest sys) : (reuse f p).Honest sys := by
  intro known post h
  rw [uncached_reuse] at h
  exact reuse_ensures hf he hp fun later hlater _ => h later hlater

end Access

/-! ## The evaluator -/

namespace System

open Access

variable {sys : System} {f : Formula} {known : List Store.Entry}
  {post : Except Fault Bounds → List Store.Entry → Prop}

theorem evaluateAtom_honest (sys : System) (name : String) :
    (sys.evaluateAtom name).Honest sys := by
  unfold evaluateAtom
  split
  · exact .done _
  · exact .report (.done _)

theorem evaluateAlways_honest (sys : System) (b : Bounds) : (sys.evaluateAlways b).Honest sys :=
  .bind (.greatestFixpoint _ _) fun _ _ => .bind (.greatestFixpoint _ _) fun _ _ => .ofExcept _

theorem evaluateUntil_honest (sys : System) (b c : Bounds) :
    (sys.evaluateUntil b c).Honest sys :=
  .bind (.leastFixpoint _ _ _) fun _ _ => .bind (.leastFixpoint _ _ _) fun _ _ => .ofExcept _

/-- The evaluator reuses the result of an honest computation. -/
theorem exists_evaluate_eq_reuse (sys : System) (hf : f.isCore = true) :
    ∃ p, sys.evaluate f = reuse f p ∧ p.Honest sys := by
  have honest : ∀ {f}, f.isCore = true → (∃ p, sys.evaluate f = reuse f p ∧ p.Honest sys) →
      (sys.evaluate f).Honest sys := by
    rintro f hf ⟨p, he, hp⟩
    have hu : (sys.evaluate f).uncached = p.uncached := by rw [he, uncached_reuse]
    rw [he]
    exact .reuse hf hu hp
  induction f with
  | tt => exact ⟨_, rfl, .bind (.ofExcept _) fun _ _ => .done _⟩
  | ff => exact ⟨_, rfl, .done _⟩
  | atom name => exact ⟨_, rfl, sys.evaluateAtom_honest name⟩
  | neg f ih => exact ⟨_, rfl, .bind (honest hf (ih hf)) fun _ _ => .ofExcept _⟩
  | conj f g ihf ihg =>
    obtain ⟨hf, hg⟩ := Bool.and_eq_true_iff.1 hf
    exact ⟨_, rfl, .bind (honest hf (ihf hf)) fun _ _ => .bind (honest hg (ihg hg)) fun _ _ =>
      .ofExcept _⟩
  | ex f ih =>
    by_cases h : f = .tt
    · subst h
      exact ⟨_, rfl, .counted _ _⟩
    · exact ⟨_, evaluate_ex h, .bind (honest hf (ih hf)) fun _ _ => .counted _ _⟩
  | ax f ih => exact ⟨_, rfl, .bind (honest hf (ih hf)) fun _ _ => .counted _ _⟩
  | eg f ih =>
    exact ⟨_, rfl, .bind (honest hf (ih hf)) fun b _ => sys.evaluateAlways_honest b⟩
  | eu f g ihf ihg =>
    obtain ⟨hf, hg⟩ := Bool.and_eq_true_iff.1 hf
    exact ⟨_, rfl, .bind (honest hf (ihf hf)) fun b _ => .bind (honest hg (ihg hg)) fun c _ =>
      sys.evaluateUntil_honest b c⟩
  | disj _ _ | imp _ _ | iff _ _ | ag _ | ef _ | af _ | au _ _ => cases hf

/-- The evaluator ends as it would without a store, and after a success the
formula is recorded. -/
theorem evaluate_ensures (hf : f.isCore = true)
    (h : ∀ later, known ⊆ later →
      (∀ b, (sys.evaluate f).uncached = .ok b → .bounds f ∈ later) →
        post (sys.evaluate f).uncached later) :
    (sys.evaluate f).Ensures sys post known := by
  obtain ⟨p, he, hp⟩ := sys.exists_evaluate_eq_reuse hf
  have hu : (sys.evaluate f).uncached = p.uncached := by rw [he, uncached_reuse]
  rw [hu] at h
  rw [he]
  exact reuse_ensures hf hu hp h

/-- What a check of `f` ends with: the outcome that there is without a store, and
after a success the core form of `f` and its bounds in the store. -/
def Settles (sys : System) (f : Formula) (outcome : Except Fault Bounds)
    (known : List Store.Entry) : Prop :=
  outcome = (sys.evaluate f.toCore).uncached ∧
    ∀ b, outcome = .ok b → .core f ∈ known ∧ .bounds f.toCore ∈ known

theorem check_ensures (sys : System) (f : Formula) :
    (sys.check f).Ensures sys (sys.Settles f) [] := by
  have evaluated : ∀ known, .core f ∈ known →
      (sys.evaluate f.toCore).Ensures sys (sys.Settles f) known := fun known hcore =>
    evaluate_ensures f.isCore_toCore fun later hlater hb => ⟨rfl, fun b h => ⟨hlater hcore, hb b h⟩⟩
  refine .bind ⟨⟨rfl, ?_⟩, ?_⟩
  · exact evaluated _ List.mem_cons_self
  · exact evaluated _ List.mem_cons_self

end System

end BranchingTime
