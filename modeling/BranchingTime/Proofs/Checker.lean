/-
A checker in use. A `Checker` is a store with all calls of `check` that were made
on it, each with the rest of its program. Calls come from anywhere: from one
caller after another, from the workers of a pool, from workers that a broken-off
batch has left behind. So a history is any sequence of new calls and of single
accesses of calls that are under way, in any order (`Step`, `Reached`). A call may
break off by a fault, or be given up at any point and never go on.

In every history the entries of the store are faithful and all calls keep to the
rule of `Ensures` (`Sound`). So all calls that end, end as they would without a
store, and a formula that was answered once is recalled from then on.
-/
import BranchingTime.Batch
import BranchingTime.Proofs.Interleaving
import Mathlib.Logic.Relation

namespace BranchingTime

/-- A call of `check`. -/
structure Call where
  formula : Formula
  /-- What is left to do; once the call has ended, its outcome. -/
  rest : Access Bounds

/-- A store in use. -/
structure Checker where
  store : Store := {}
  /-- All calls so far, in the order in which they were made. -/
  calls : List Call := []

namespace Checker

variable {sys : System} {c c' : Checker} {f : Formula}

def session (c : Checker) (sys : System) : Session := ⟨sys, c.store⟩

/-- One more call. -/
def call (c : Checker) (sys : System) (f : Formula) : Checker :=
  { c with calls := c.calls ++ [⟨f, sys.check f⟩] }

/-- The next access of the call that is at an index. -/
def access (c : Checker) (index : Nat) (call : Call) : Checker where
  store := (call.rest.step c.store).2
  calls := c.calls.set index { call with rest := (call.rest.step c.store).1 }

/-- Something is put down in the log that is no part of a call. -/
def report (c : Checker) (e : Event) : Checker :=
  { c with store := { c.store with log := c.store.log.push e } }

/-- What can happen next on a checker. -/
inductive Step (sys : System) : Checker → Checker → Prop
  | call (c : Checker) (f : Formula) : Step sys c (c.call sys f)
  | access {c : Checker} (index : Nat) (call : Call) (h : c.calls[index]? = some call) :
    Step sys c (c.access index call)
  | report (c : Checker) (e : Event) : Step sys c (c.report e)

/-- A history leads from one checker to the other. -/
abbrev Steps (sys : System) : Checker → Checker → Prop := Relation.ReflTransGen (Step sys)

/-- A history leads to this checker from one that was never used. -/
def Reached (sys : System) (c : Checker) : Prop := Steps sys {} c

/-! ## Calls stay -/

/-- The calls of the first checker are there in the second one, and those that had
ended are as they were. -/
def Keeps (c c' : Checker) : Prop :=
  ∀ (index : Nat) (call : Call), c.calls[index]? = some call →
    ∃ later, c'.calls[index]? = some later ∧ later.formula = call.formula ∧
      ∀ {outcome}, call.rest.outcome? = some outcome → later.rest.outcome? = some outcome

theorem Step.keeps (hs : Step sys c c') : c.Keeps c' := by
  intro index call hcall
  cases hs with
  | call f =>
    have hlt : index < c.calls.length := (List.getElem?_eq_some_iff.1 hcall).1
    refine ⟨call, ?_, rfl, fun ho => ho⟩
    rw [Checker.call, List.getElem?_append_left hlt, hcall]
  | access i other hother =>
    by_cases hi : i = index
    · subst hi
      obtain rfl := Option.some.inj (hother.symm.trans hcall)
      have hlt : i < c.calls.length := (List.getElem?_eq_some_iff.1 hcall).1
      refine ⟨{ other with rest := (other.rest.step c.store).1 }, ?_, rfl, Access.outcome?_step⟩
      rw [Checker.access, List.getElem?_set_self hlt]
    · refine ⟨call, ?_, rfl, fun ho => ho⟩
      rw [Checker.access, List.getElem?_set_ne hi, hcall]
  | report e => exact ⟨call, hcall, rfl, fun ho => ho⟩

theorem Steps.keeps (hs : Steps sys c c') : c.Keeps c' := by
  induction hs with
  | refl => exact fun _ call hcall => ⟨call, hcall, rfl, fun ho => ho⟩
  | tail _ hstep ih =>
    intro index call hcall
    obtain ⟨later, hlater, hformula, hended⟩ := ih index call hcall
    obtain ⟨last, hlast, hsame, hstill⟩ := hstep.keeps index later hlater
    exact ⟨last, hlast, hsame.trans hformula, fun ho => hstill (hended ho)⟩

theorem Keeps.length_le (h : c.Keeps c') : c.calls.length ≤ c'.calls.length := by
  rcases Nat.eq_zero_or_pos c.calls.length with hzero | hpos
  · omega
  · have hlast : c.calls.length - 1 < c.calls.length := by omega
    obtain ⟨later, hlater, -⟩ := h _ _ (List.getElem?_eq_getElem hlast)
    have := (List.getElem?_eq_some_iff.1 hlater).1
    omega

/-! ## The invariant -/

/-- All entries are faithful, and all calls keep to the rule. -/
structure Sound (sys : System) (c : Checker) : Prop where
  faithful : c.store.Faithful sys
  calls : ∀ call ∈ c.calls, ∃ known, (∀ e ∈ known, c.store.Has e) ∧
    call.rest.Ensures sys (sys.Settles call.formula) known

theorem Step.sound (hs : Step sys c c') (h : c.Sound sys) : c'.Sound sys := by
  cases hs with
  | call f =>
    refine ⟨h.faithful, fun call hcall => ?_⟩
    rcases List.mem_append.1 hcall with hcall | hcall
    · exact h.calls call hcall
    · obtain rfl := List.mem_singleton.1 hcall
      exact ⟨[], by simp, sys.check_ensures f⟩
  | access index call hcall =>
    obtain ⟨known, hk, hensures⟩ := h.calls call (List.mem_of_getElem? hcall)
    obtain ⟨hfaithful, later, hlater, hrest⟩ := hensures.step h.faithful hk
    refine ⟨hfaithful, fun other hother => ?_⟩
    rcases List.mem_or_eq_of_mem_set hother with hother | rfl
    · -- the entries that another call knows of are still there
      obtain ⟨known, hk, hensures⟩ := h.calls other hother
      exact ⟨known, fun e he => Access.step_has call.rest (hk e he), hensures⟩
    · exact ⟨later, hlater, hrest⟩
  | report e =>
    refine ⟨⟨h.faithful.bounds, h.faithful.cores⟩, fun call hcall => ?_⟩
    obtain ⟨known, hk, hensures⟩ := h.calls call hcall
    refine ⟨known, fun e he => ?_, hensures⟩
    have := hk e he
    cases e <;> exact this

theorem Reached.sound (h : c.Reached sys) : c.Sound sys := by
  induction h with
  | refl => exact ⟨Store.faithful_empty sys, by simp⟩
  | tail _ hs ih => exact hs.sound ih

/-! ## Checks on a faithful store -/

theorem check_run_fst {store : Store} (hs : store.Faithful sys) (f : Formula) :
    ((sys.check f).run store).1 = (sys.evaluate f.toCore).uncached := by
  obtain ⟨-, known, -, hsettles⟩ := (sys.check_ensures f).run hs (by simp)
  exact hsettles.1

/-- Whatever was done on a checker, a check ends as it would without a store. -/
theorem Reached.check_fst (h : c.Reached sys) (f : Formula) :
    ((c.session sys).check f).1 = (sys.evaluate f.toCore).uncached :=
  check_run_fst h.sound.faithful f

/-- On a valid system it gives the bounds of the core form, if the system affords that. -/
theorem Reached.check_okIf (h : c.Reached sys) (hv : sys.Valid) (f : Formula) :
    System.OkIf (sys.Affords f.toCore) ((c.session sys).check f).1 (sys.bounds f.toCore) := by
  rw [h.check_fst]
  exact System.evaluate_okIf hv f.isCore_toCore

theorem Reached.check_okIfFits (h : c.Reached sys) (hv : sys.Valid) (f : Formula) :
    sys.OkIfFits ((c.session sys).check f).1 (sys.bounds f.toCore) :=
  (h.check_okIf hv f).okIfFits fun hfits => System.affords_of_fits hv hfits f.toCore

/-- So if the states fit, it gives bounds. -/
theorem Reached.exists_check_eq_ok (h : c.Reached sys) (hv : sys.Valid)
    (hfits : sys.size < setLimit) (f : Formula) :
    ∃ b, ((c.session sys).check f).1 = .ok b := by
  rcases h.check_okIfFits hv f with hok | ⟨-, hsize⟩
  · exact ⟨_, hok⟩
  · omega

/-- A formula whose core form and bounds are recorded is recalled. -/
theorem check_run_of_has {store : Store} (hs : store.Faithful sys) (hcore : store.Has (.core f))
    {b : Bounds} (hb : store.bounds[f.toCore]? = some b) :
    (sys.check f).run store =
      (.ok b, { store with log := store.log.push (.recalled f.toCore) }) := by
  obtain ⟨core, hc⟩ := Option.isSome_iff_exists.1 (Std.HashMap.mem_iff_isSome_getElem?.1 hcore)
  obtain rfl := hs.cores hc
  obtain ⟨p, he, -⟩ := sys.exists_evaluate_eq_reuse f.isCore_toCore
  rw [System.check, Access.run_bind]
  simp only [System.coreForm, Access.run, hc]
  rw [he]
  simp only [Access.reuse, Access.run, hb]

/-- A call that has ended has the outcome that there is without a store. -/
theorem Sound.outcome_eq (h : c.Sound sys) {call : Call} (hcall : call ∈ c.calls)
    {outcome : Except Fault Bounds} (ho : call.rest.outcome? = some outcome) :
    outcome = (sys.evaluate call.formula.toCore).uncached := by
  obtain ⟨known, -, hensures⟩ := h.calls call hcall
  exact (hensures.outcome ho).1

/-- A formula that a call has answered is recalled from then on. -/
theorem Sound.check_run_of_answered (h : c.Sound sys) {call : Call} (hcall : call ∈ c.calls)
    {b : Bounds} (ho : call.rest.outcome? = some (.ok b)) :
    (sys.check call.formula).run c.store =
      (.ok b, { c.store with log := c.store.log.push (.recalled call.formula.toCore) }) := by
  obtain ⟨known, hk, hensures⟩ := h.calls call hcall
  obtain ⟨houtcome, hentries⟩ := hensures.outcome ho
  obtain ⟨hcore, hbounds⟩ := hentries b rfl
  obtain ⟨b', hb'⟩ :=
    Option.isSome_iff_exists.1 (Std.HashMap.mem_iff_isSome_getElem?.1 (hk _ hbounds))
  have hvalue := (h.faithful.bounds hb').2
  rw [← houtcome] at hvalue
  cases hvalue
  exact check_run_of_has h.faithful (hk _ hcore) hb'

/-! ## Calls that have the store to themselves -/

theorem Steps.access_last {store : Store} {calls : List Call} (p : Access Bounds) :
    Steps sys ⟨store, calls ++ [⟨f, p⟩]⟩
      ⟨(p.step store).2, calls ++ [⟨f, (p.step store).1⟩]⟩ := by
  have hstep : Step sys ⟨store, calls ++ [⟨f, p⟩]⟩ _ := .access calls.length ⟨f, p⟩ (by simp)
  simpa [access] using Relation.ReflTransGen.single hstep

/-- The last call goes on to its end. -/
theorem Steps.run_last {store : Store} {calls : List Call} (p : Access Bounds) :
    Steps sys ⟨store, calls ++ [⟨f, p⟩]⟩
      ⟨(p.run store).2, calls ++ [⟨f, .ofExcept (p.run store).1⟩]⟩ := by
  induction p generalizing store with
  | done value | fail fault => exact .refl
  | fetch g next ih | fetchCore g next ih => exact (access_last _).trans (ih _)
  | record g b next ih | recordCore g core next ih | count lookups next ih | report e next ih =>
    exact (access_last _).trans ih

theorem Steps.check (sys : System) (c : Checker) (f : Formula) :
    Steps sys c ⟨((sys.check f).run c.store).2,
      c.calls ++ [⟨f, .ofExcept ((sys.check f).run c.store).1⟩]⟩ :=
  .head (.call c f) (run_last _)

/-- Among the calls is one of `f` that has been answered. -/
def Answers (calls : List Call) (f : Formula) : Prop := ∃ b, ⟨f, .done b⟩ ∈ calls

/-- With one more answer, one more job is answered. -/
theorem Answers.forall_cons {calls : List Call} {name : String} {b : Bounds}
    {jobs : List (String × Formula)} (h : ∀ job ∈ jobs, Answers calls job.2) :
    ∀ job ∈ (name, f) :: jobs, Answers (⟨f, .done b⟩ :: calls) job.2 := by
  refine List.forall_mem_cons.2 ⟨⟨b, List.mem_cons_self⟩, fun job hjob => ?_⟩
  obtain ⟨b', hb'⟩ := h job hjob
  exact ⟨b', List.mem_cons_of_mem _ hb'⟩

/-- Formulas that are checked one after another. -/
theorem Steps.checkJobs (sys : System) (c : Checker) (results : Results)
    (jobs : List (String × Formula)) :
    ∃ calls, Steps sys c
        ⟨((Batch.checkJobs sys results jobs).run c.store).2, c.calls ++ calls⟩ ∧
      (((Batch.checkJobs sys results jobs).run c.store).1.isOk = true →
        ∀ job ∈ jobs, Answers calls job.2) := by
  induction jobs generalizing c results with
  | nil => exact ⟨[], by simpa [Batch.checkJobs, Access.run] using .refl, by simp⟩
  | cons job jobs ih =>
    obtain ⟨name, f⟩ := job
    have hcheck := (Relation.ReflTransGen.single (.report c (.checking name f))).trans
      (Steps.check sys (c.report (.checking name f)) f)
    simp only [report] at hcheck
    simp only [Batch.checkJobs, Access.run, Access.run_bind]
    generalize (sys.check f).run { c.store with log := _ } = ended at hcheck ⊢
    obtain ⟨outcome, store⟩ := ended
    cases outcome with
    | error fault =>
      refine ⟨_, hcheck, fun hok => ?_⟩
      cases hok
    | ok b =>
      obtain ⟨calls, hsteps, hanswers⟩ :=
        ih ⟨store, c.calls ++ [⟨f, .done b⟩]⟩ (results.insert name b)
      refine ⟨⟨f, .done b⟩ :: calls, ?_, fun hok => Answers.forall_cons (hanswers hok)⟩
      simpa [Access.ofExcept] using hcheck.trans hsteps

end Checker

end BranchingTime
