/-
The store cannot be noticed, but for the work that it saves. Whatever has been
done on a checker, its entries are what a new session computes, every check ends
as in a new session, and a formula that was answered before is answered without
a lookup and without a new entry (`Transparent`).

What can be done on a checker are its operations: a check, a batch in order, a
batch by a pool; they may succeed or not. Each is a history of calls
(`Steps.perform`), and so is every state of a pool with many workers, also after
the caller has left it. In both cases the formulas of a success are answered.
-/
import BranchingTime.Proofs.Agreement

namespace BranchingTime

theorem Access.eq_done_of_outcome? {α : Type} {p : Access α} {value : α}
    (h : p.outcome? = some (.ok value)) : p = .done value := by
  cases p <;> cases h
  rfl

/-! ## Answers stay -/

namespace Checker

variable {sys : System} {c c' : Checker} {f : Formula}

theorem Answers.mono {calls more : List Call} (h : Answers calls f) (hsub : calls ⊆ more) :
    Answers more f := by
  obtain ⟨b, hb⟩ := h
  exact ⟨b, hsub hb⟩

theorem Answers.keep (h : Answers c.calls f) (hk : c.Keeps c') : Answers c'.calls f := by
  obtain ⟨b, hb⟩ := h
  obtain ⟨index, hindex⟩ := List.mem_iff_getElem?.1 hb
  obtain ⟨⟨g, rest⟩, hlater, rfl, hended⟩ := hk index _ hindex
  obtain rfl := Access.eq_done_of_outcome? (hended rfl)
  exact ⟨b, List.mem_of_getElem? hlater⟩

end Checker

/-- The formulas of results that a pool returns are answered. -/
theorem Pool.Consistent.answers {batch : Batch} {limit : Duration} {base : Nat} {p : Pool}
    (h : p.Consistent batch limit base) {results : Results}
    (hr : p.collector = .returned (.ok results)) :
    ∀ f ∈ batch.jobs.map (·.2), Checker.Answers p.checker.calls f := by
  obtain ⟨hgenuine, hall⟩ := h.of_returned_ok hr
  intro f hf
  obtain ⟨⟨name, f⟩, hjob, rfl⟩ := List.mem_map.1 hf
  obtain ⟨b, -, index, ⟨g, rest⟩, hmade, ho⟩ :=
    hgenuine.exists_of_mem (hall name (List.mem_map_of_mem hjob))
  obtain rfl := Batch.eq_of_mem_jobs hjob hmade.job
  obtain rfl := Access.eq_done_of_outcome? ho
  exact ⟨b, List.mem_of_getElem? hmade.found⟩

/-! ## Operations -/

/-- What can be asked of a session. -/
inductive Operation where
  | check (f : Formula)
  | inOrder (batch : Batch)
  | pooled (batch : Batch) (settings : Batch.PoolSettings)

namespace Operation

def formulas : Operation → List Formula
  | check f => [f]
  | inOrder batch | pooled batch _ => batch.jobs.map (·.2)

/-- Whether the operation succeeds, and the session after it. -/
def perform (session : Session) : Operation → Bool × Session
  | check f => ((session.check f).1.isOk, (session.check f).2)
  | inOrder batch =>
    ((session.execute (batch.inOrder session.system)).1.isOk,
      (session.execute (batch.inOrder session.system)).2)
  | pooled batch settings =>
    ((batch.pooled settings session).1.toOption.any (·.isOk), (batch.pooled settings session).2)

end Operation

namespace Checker

variable {sys : System} {c : Checker}

theorem Steps.inOrder (sys : System) (c : Checker) (batch : Batch) :
    ∃ c', Steps sys c c' ∧ c'.store = ((batch.inOrder sys).run c.store).2 ∧
      (((batch.inOrder sys).run c.store).1.isOk = true →
        ∀ f ∈ batch.jobs.map (·.2), Answers c'.calls f) := by
  obtain ⟨calls, hsteps, hanswers⟩ :=
    Steps.checkJobs sys (c.report (.checkingInOrder batch.jobs.length)) ∅ batch.jobs
  refine ⟨_, .head (.report c _) hsteps, rfl, fun hok f hf => ?_⟩
  obtain ⟨job, hjob, rfl⟩ := List.mem_map.1 hf
  exact (hanswers hok job hjob).mono (List.subset_append_right _ _)

theorem Steps.pooled (sys : System) (c : Checker) (batch : Batch)
    (settings : Batch.PoolSettings) :
    ∃ c', Steps sys c c' ∧ c'.session sys = (batch.pooled settings (c.session sys)).2 ∧
      ((batch.pooled settings (c.session sys)).1.toOption.any (·.isOk) = true →
        ∀ f ∈ batch.jobs.map (·.2), Answers c'.calls f) := by
  cases hpooled : (batch.pooled settings (c.session sys)).1 with
  | error fault =>
    -- the deadline cannot be computed, and nothing is done
    refine ⟨c, .refl, ?_, nofun⟩
    unfold Batch.pooled at hpooled ⊢
    split at hpooled
    next hdeadline => rw [if_pos hdeadline]
    next => split at hpooled <;> cases hpooled
  | ok outcome =>
    obtain ⟨p, hp, hr, hsession⟩ := Pool.pooled_steps batch settings c hpooled
    have hconsistent := hp.consistent (Pool.start_consistent batch settings.limit _ c)
    refine ⟨p.checker, (Pool.start_steps batch _ c).trans hp.checker, hsession, fun hok => ?_⟩
    cases outcome with
    | error error => cases hok
    | ok results => exact hconsistent.answers hr

/-- An operation is a history of calls, and after a success its formulas are
answered. -/
theorem Steps.perform (sys : System) (c : Checker) (op : Operation) :
    ∃ c', Steps sys c c' ∧ c'.session sys = (op.perform (c.session sys)).2 ∧
      ((op.perform (c.session sys)).1 = true → ∀ f ∈ op.formulas, Answers c'.calls f) := by
  cases op with
  | check f =>
    refine ⟨_, Steps.check sys c f, rfl, fun hok g hg => ?_⟩
    obtain rfl := List.mem_singleton.1 hg
    have hok : ((sys.check g).run c.store).1.isOk = true := hok
    generalize (sys.check g).run c.store = ended at hok
    obtain ⟨outcome, store⟩ := ended
    cases outcome with
    | error fault => cases hok
    | ok b => exact ⟨b, List.mem_append_right _ List.mem_cons_self⟩
  | inOrder batch =>
    obtain ⟨c', hsteps, hstore, hanswers⟩ := Steps.inOrder sys c batch
    exact ⟨c', hsteps, congrArg (Session.mk sys) hstore, hanswers⟩
  | pooled batch settings => exact Steps.pooled sys c batch settings

/-! ## Transparency -/

/-- The store makes no difference to any check. -/
structure Transparent (sys : System) (c : Checker) : Prop where
  /-- Recorded bounds are those of core formulas in a new session. -/
  bounds : ∀ (g : Formula) (b : Bounds), c.store.bounds[g]? = some b →
    g.isCore = true ∧ (({ system := sys } : Session).check g).1 = .ok b
  cores : ∀ (g core : Formula), c.store.cores[g]? = some core → core = g.toCore
  /-- A check gives the same bounds, or breaks off in the same way. -/
  check : ∀ f, ((c.session sys).check f).1 = (({ system := sys } : Session).check f).1
  /-- A formula that was answered is answered again without any work. -/
  again : ∀ f, Answers c.calls f →
    (∃ b, ((c.session sys).check f).1 = .ok b) ∧
    ((c.session sys).check f).2.lookups = (c.session sys).lookups ∧
    ((c.session sys).check f).2.recorded = (c.session sys).recorded

theorem Reached.transparent (hc : c.Reached sys) : c.Transparent sys := by
  have hfresh : ∀ f, (({ system := sys } : Session).check f).1 = (sys.evaluate f.toCore).uncached :=
    fun f => check_run_fst (Store.faithful_empty sys) f
  refine ⟨fun g b hb => ?_, fun g core => hc.sound.faithful.cores, fun f => ?_, fun f hf => ?_⟩
  · obtain ⟨hcore, hvalue⟩ := hc.sound.faithful.bounds hb
    rw [hfresh, Formula.toCore_eq_self hcore]
    exact ⟨hcore, hvalue⟩
  · rw [hc.check_fst, hfresh]
  · obtain ⟨b, hb⟩ := hf
    have hrun := hc.sound.check_run_of_answered hb rfl
    refine ⟨⟨b, congrArg Prod.fst hrun⟩, ?_, ?_⟩
    · exact congrArg (·.2.lookups) hrun
    · exact congrArg (·.2.bounds.size) hrun

/-- **The store is transparent** after every history: of operations, of pools in
which the workers take turns in any order, and of calls that went on after their
batch had failed or were given up. And all of these only make the history
longer, in which what was answered stays answered. -/
theorem store_transparent_after_history (hc : c.Reached sys) :
    c.Transparent sys ∧
    (∀ op : Operation, ∃ c', Steps sys c c' ∧ c'.Transparent sys ∧
      c'.session sys = (op.perform (c.session sys)).2 ∧
      ((op.perform (c.session sys)).1 = true → ∀ f ∈ op.formulas, Answers c'.calls f)) ∧
    (∀ batch limit threads p, Pool.Steps sys batch limit (Pool.start batch threads c) p →
      Steps sys c p.checker ∧ p.checker.Transparent sys ∧
      ∀ results, p.collector = .returned (.ok results) →
        ∀ f ∈ batch.jobs.map (·.2), Answers p.checker.calls f) ∧
    (∀ c', Steps sys c c' → ∀ f, Answers c.calls f → Answers c'.calls f) := by
  have later : ∀ {c'}, Steps sys c c' → c'.Transparent sys :=
    fun hs => Reached.transparent (Relation.ReflTransGen.trans hc hs)
  refine ⟨hc.transparent, fun op => ?_, fun batch limit threads p hp => ?_,
    fun c' hs f hf => hf.keep hs.keeps⟩
  · obtain ⟨c', hs, hsession, hanswers⟩ := Steps.perform sys c op
    exact ⟨c', hs, later hs, hsession, hanswers⟩
  · have hs := (Pool.start_steps batch threads c).trans hp.checker
    have hconsistent := hp.consistent (Pool.start_consistent batch limit threads c)
    exact ⟨hs, later hs, fun results hr => hconsistent.answers hr⟩

theorem store_transparent_after_check : ∃ c : Checker,
    c.Reached System.twoStates ∧ c.Transparent System.twoStates ∧
    Answers c.calls (.ef (.atom "p")) ∧
    ((c.session System.twoStates).check (.ef (.atom "p"))).2.lookups =
      (c.session System.twoStates).lookups := by
  have hv : System.twoStates.Valid := System.violation?_eq_none.1 (by decide +kernel)
  obtain ⟨b, hb⟩ :=
    Reached.exists_check_eq_ok .refl hv (by decide +kernel) (.ef (.atom "p"))
  have hok : ((Operation.check (.ef (.atom "p"))).perform
      (({} : Checker).session System.twoStates)).1 = true := congrArg Except.isOk hb
  obtain ⟨c, hs, -, hanswers⟩ := Steps.perform System.twoStates {} (.check (.ef (.atom "p")))
  have hanswered := hanswers hok (.ef (.atom "p")) List.mem_cons_self
  have htransparent := (store_transparent_after_history hs).1
  exact ⟨c, hs, htransparent, hanswered, (htransparent.again _ hanswered).2.1⟩

end Checker

end BranchingTime
