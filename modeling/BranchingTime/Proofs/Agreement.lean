/-
A pool of workers gives what checking in order gives. Whatever the order of the
steps, results that are returned have one entry for each formula, with the
bounds that its check has without a store; and so have the results of checking
in order, on any checker (`checkJobs_run_fst`). Errors have a reason, and that
the channel is disconnected too early is none.

`Batch.pooled` takes the formulas one by one. That is one of the ways in which
the workers can take turns: one of them does all the work (`pooled_steps`).
-/
import BranchingTime.Proofs.Pool
import BranchingTime.System.Build
import Mathlib.Data.List.Nodup

namespace BranchingTime

/-! ## Checking in order -/

namespace Batch

variable {sys : System} {expected : Results}

/-- Formulas whose checks all give the expected bounds, one after another. -/
theorem checkJobs_run_fst {store : Store} (hs : store.Faithful sys) (results : Results)
    {jobs : List (String × Formula)}
    (h : ∀ job ∈ jobs, ∃ b, (sys.evaluate job.2.toCore).uncached = .ok b ∧
      expected[job.1]? = some b) :
    ∃ final, ((checkJobs sys results jobs).run store).1 = .ok final ∧
      ∀ name, final[name]? =
        if name ∈ jobs.map (·.1) then expected[name]? else results[name]? := by
  induction jobs generalizing store results with
  | nil => exact ⟨results, rfl, by simp⟩
  | cons job jobs ih =>
    obtain ⟨name, f⟩ := job
    obtain ⟨⟨b, hb, hexpected⟩, hjobs⟩ := List.forall_mem_cons.1 h
    have hreported :
        ({ store with log := store.log.push (.checking name f) } : Store).Faithful sys :=
      ⟨hs.bounds, hs.cores⟩
    have hfst := Checker.check_run_fst hreported f
    have hsnd := ((sys.check_ensures f).run hreported (by simp)).1
    simp only [checkJobs, Access.run, Access.run_bind]
    generalize (sys.check f).run _ = ended at hfst hsnd
    obtain ⟨outcome, store⟩ := ended
    obtain rfl : outcome = .ok b := hfst.trans hb
    obtain ⟨final, hrun, hfinal⟩ := ih hsnd (results.insert name b) hjobs
    refine ⟨final, hrun, fun other => ?_⟩
    rw [hfinal, Std.ExtTreeMap.getElem?_insert]
    by_cases hname : name = other
    · subst hname
      simp [hexpected]
    · have hne : ¬other = name := fun he => hname he.symm
      have hcompare : ¬compare name other = .eq := by simpa using hname
      rw [if_neg hcompare]
      simp only [List.map_cons, List.mem_cons, hne, false_or]

/-- Checking in order gives these results, if they have one entry for each
formula, and that the bounds of its check. -/
theorem inOrder_run_fst {batch : Batch} {store : Store} (hs : store.Faithful sys)
    (hkeys : ∀ name ∈ expected, name ∈ batch.jobs.map (·.1))
    (h : ∀ job ∈ batch.jobs, ∃ b, (sys.evaluate job.2.toCore).uncached = .ok b ∧
      expected[job.1]? = some b) :
    ((batch.inOrder sys).run store).1 = .ok expected := by
  have hreported : ({ store with log := store.log.push (.checkingInOrder batch.jobs.length) } :
      Store).Faithful sys := ⟨hs.bounds, hs.cores⟩
  obtain ⟨final, hrun, hfinal⟩ := checkJobs_run_fst hreported ∅ h
  have heq : final = expected := by
    refine Std.ExtTreeMap.ext_getElem? fun name => ?_
    rw [hfinal]
    split
    · rfl
    next hname =>
      have hnone : name ∉ expected := fun hmem => hname (hkeys name hmem)
      rw [Std.ExtTreeMap.getElem?_eq_none hnone]
      simp
  rw [inOrder, Access.run, hrun, heq]

end Batch

/-! ## What a pool returns -/

variable {sys : System} {batch : Batch} {limit : Duration} {base threads : Nat} {p : Pool}
  {c : Checker}

/-- A call for a job ended as the check of the job's formula does without a
store. -/
theorem Evaluated.exists_job (hs : c.Sound sys) {name : String} {outcome : Except Fault Bounds}
    (h : Evaluated batch base c name outcome) :
    ∃ f, (name, f) ∈ batch.jobs ∧ outcome = (sys.evaluate f.toCore).uncached := by
  obtain ⟨index, call, hmade, ho⟩ := h
  exact ⟨call.formula, hmade.job, hs.outcome_eq (List.mem_of_getElem? hmade.found) ho⟩

/-- No two jobs have the same name. -/
theorem Batch.eq_of_mem_jobs {name : String} {f g : Formula} (hf : (name, f) ∈ batch.jobs)
    (hg : (name, g) ∈ batch.jobs) : f = g := by
  have := List.inj_on_of_nodup_map batch.distinct hf hg rfl
  exact (Prod.mk.inj this).2

theorem Genuine.getElem?_eq (hs : c.Sound sys) {results : Results}
    (h : Genuine batch base c results) (hall : ∀ name ∈ batch.jobs.map (·.1), name ∈ results) :
    ∀ job ∈ batch.jobs, ∃ b, (sys.evaluate job.2.toCore).uncached = .ok b ∧
      results[job.1]? = some b := by
  rintro ⟨name, f⟩ hjob
  obtain ⟨b, hb, hevaluated⟩ := h.exists_of_mem (hall name (List.mem_map_of_mem hjob))
  obtain ⟨g, hg, houtcome⟩ := hevaluated.exists_job hs
  obtain rfl := Batch.eq_of_mem_jobs hjob hg
  exact ⟨b, houtcome.symm, hb⟩

namespace Pool

theorem start_consistent (batch : Batch) (limit : Duration) (threads : Nat) (c : Checker) :
    (start batch threads c).Consistent batch limit c.calls.length := by
  unfold start
  split
  next hempty =>
    have hjobs : batch.jobs = [] := List.isEmpty_iff.1 hempty
    refine ⟨Nat.le_refl _, by simp, by simp, by simp, ⟨?_, by simp [hjobs]⟩, nofun⟩
    intro name b hb
    simp at hb
  next hempty =>
    have hjobs : 0 < batch.jobs.length := List.length_pos_iff.2 (by simpa using hempty)
    have hstaff : 0 < staff batch threads := by
      unfold staff
      omega
    refine ⟨Nat.le_refl _, fun job hjob => hjob, by simp, by simp, ?_, ?_⟩
    · intro name b hb
      simp at hb
    · rintro _ ⟨⟩
      refine ⟨rfl, fun name => by simp [places, List.countP_replicate], by simp, ?_⟩
      simp only [ne_eq, List.replicate_eq_nil_iff]
      omega

theorem start_steps (batch : Batch) (threads : Nat) (c : Checker) :
    Checker.Steps sys c (start batch threads c).checker := by
  unfold start
  split
  · exact .refl
  · exact .single (.report _ _)

/-- The calls that were made since a pool started. -/
def newCalls (p : Pool) (c : Checker) : List Call := p.checker.calls.drop c.calls.length

theorem mem_newCalls {name : String} {index : Nat} {call : Call}
    (h : MadeFor batch c.calls.length p.checker name index call) : call ∈ p.newCalls c := by
  refine List.mem_of_getElem? (i := index - c.calls.length) ?_
  rw [newCalls, List.getElem?_drop, Nat.add_sub_cancel' h.since]
  exact h.found

/-- An error of a pool is that the time is over, or that a call for a job of the
batch has broken off. -/
theorem exists_of_returned_error {error : BatchError}
    (h : p.Consistent batch limit c.calls.length)
    (hr : p.collector = .returned (.error error)) :
    error = .timedOut limit ∨ ∃ name fault, error = .brokenOff name fault ∧
      ∃ call ∈ p.newCalls c, (name, call.formula) ∈ batch.jobs ∧
        call.rest.outcome? = some (.error fault) := by
  have hbacked := h.backed
  rw [hr] at hbacked
  cases error with
  | timedOut duration => exact .inl (congrArg _ hbacked)
  | brokenOff name fault =>
    obtain ⟨index, call, hmade, ho⟩ := hbacked
    exact .inr ⟨name, fault, rfl, call, mem_newCalls hmade, hmade.job, ho⟩
  | repeatedName name | deserted name => exact hbacked.elim

/-! ## One worker does all the work -/

theorem Steps.check {c' : Checker} (h : Checker.Steps sys p.checker c') :
    Steps sys batch limit p { p with checker := c' } := by
  induction h with
  | refl => exact .refl
  | tail _ hstep ih => exact ih.tail (.check hstep)

variable {jobs : List (String × Formula)} {others : List Worker} {results : Results}
  {name : String} {f : Formula}

/-- The first worker takes a job, checks its formula and sends the outcome. -/
theorem Steps.job :
    Steps sys batch limit
      ⟨c, (name, f) :: jobs, .looking :: others, false, [], .collecting results⟩
      ⟨⟨((sys.check f).run c.store).2,
        c.calls ++ [⟨f, .ofExcept ((sys.check f).run c.store).1⟩]⟩,
        jobs, .looking :: others, false, [(name, ((sys.check f).run c.store).1)],
        .collecting results⟩ := by
  have hlook : Step sys batch limit
      ⟨c, (name, f) :: jobs, .looking :: others, false, [], .collecting results⟩ _ :=
    .look 0 rfl rfl
  have htake : Step sys batch limit
      ⟨c, (name, f) :: jobs, .taking :: others, false, [], .collecting results⟩ _ :=
    .take 0 rfl rfl
  have hcheck : Steps sys batch limit
      ⟨c.call sys f, jobs, .checking name c.calls.length :: others, false, [],
        .collecting results⟩ _ := .check (Checker.Steps.run_last _)
  generalize (sys.check f).run c.store = ended at hcheck ⊢
  have hcall : (c.calls ++ [⟨f, .ofExcept ended.1⟩])[c.calls.length]? =
      some ⟨f, .ofExcept ended.1⟩ := by simp
  have hended : (Access.ofExcept ended.1).outcome? = some ended.1 := by
    cases ended.1 <;> rfl
  exact .head hlook (.head htake (hcheck.tail (.send 0 rfl hcall hended nofun)))

/-- The caller gives up. -/
theorem Steps.giveUp {error : BatchError} {e : Event} (h : p.collector = .stopping error e) :
    Steps sys batch limit p { p with
      checker := p.checker.report e, stopped := true, collector := .returned (.error error) } := by
  refine .head (.stop h) (.single ?_)
  exact .leave rfl

/-- To collect the outcomes one by one is a run of the pool. -/
theorem collect_steps (settings : Batch.PoolSettings) (c : Checker)
    (hcount : results.size + jobs.length = batch.jobs.length)
    (hnew : ∀ job ∈ jobs, job.1 ∉ results) (hdistinct : (jobs.map (·.1)).Nodup) :
    ∃ p, Steps sys batch settings.limit
        ⟨c, jobs, .looking :: others, false, [], .collecting results⟩ p ∧
      p.collector = .returned
        (Batch.collect settings batch.jobs.length results jobs (c.session sys)).1 ∧
      p.checker.session sys =
        (Batch.collect settings batch.jobs.length results jobs (c.session sys)).2 := by
  induction jobs generalizing c results with
  | nil =>
    have hn : ¬results.size < batch.jobs.length := by
      simp only [List.length_nil] at hcount
      omega
    exact ⟨_, .single (.complete rfl hn), rfl, rfl⟩
  | cons job jobs ih =>
    obtain ⟨name, f⟩ := job
    have hn : results.size < batch.jobs.length := by
      simp only [List.length_cons] at hcount
      omega
    unfold Batch.collect
    split
    · exact ⟨_, .head (.timeOut rfl hn) (Steps.giveUp rfl), rfl, rfl⟩
    · have hjob : Steps sys batch settings.limit
          ⟨c, (name, f) :: jobs, .looking :: others, false, [], .collecting results⟩ _ := .job
      simp only [Session.check, Session.execute, Checker.session]
      generalize (sys.check f).run c.store = ended at hjob ⊢
      obtain ⟨outcome, store⟩ := ended
      cases outcome with
      | error fault =>
        exact ⟨_, hjob.trans (.head (.receiveFault rfl hn rfl) (Steps.giveUp rfl)), rfl, rfl⟩
      | ok b =>
        obtain ⟨hname, hrest⟩ := List.nodup_cons.1 hdistinct
        have hfresh : name ∉ results := hnew (name, f) List.mem_cons_self
        have hcount' : (results.insert name b).size + jobs.length = batch.jobs.length := by
          rw [Std.ExtTreeMap.size_insert, if_neg (by simpa using hfresh)]
          simp only [List.length_cons] at hcount
          omega
        have hnew' : ∀ job ∈ jobs, job.1 ∉ results.insert name b := by
          intro other hother hmem
          rcases Std.ExtTreeMap.mem_insert.1 hmem with he | hmem
          · obtain rfl := Std.LawfulEqCmp.eq_of_compare he
            exact hname (List.mem_map.2 ⟨other, hother, rfl⟩)
          · exact hnew other (List.mem_cons_of_mem _ hother) hmem
        obtain ⟨p, hsteps, hcollector, hsession⟩ :=
          ih (Checker.report ⟨store, c.calls ++ [⟨f, .done b⟩]⟩ (.finished name))
            hcount' hnew' hrest
        exact ⟨p, hjob.trans (.head (.receive rfl hn rfl) hsteps), hcollector, hsession⟩

/-- **To take the formulas one by one is a run of the pool.** -/
theorem pooled_steps (batch : Batch) (settings : Batch.PoolSettings) (c : Checker)
    {outcome : Except BatchError Results}
    (h : (batch.pooled settings (c.session sys)).1 = .ok outcome) :
    ∃ p, Steps sys batch settings.limit (start batch settings.workers c) p ∧
      p.collector = .returned outcome ∧
      p.checker.session sys = (batch.pooled settings (c.session sys)).2 := by
  unfold Batch.pooled at h ⊢
  split at h
  · cases h
  next hdeadline =>
    rw [if_neg hdeadline]
    unfold start
    split at h
    next hempty =>
      cases h
      rw [if_pos hempty, if_pos hempty]
      exact ⟨_, .refl, rfl, rfl⟩
    next hempty =>
      rw [if_neg hempty, if_neg hempty]
      have hjobs : 0 < batch.jobs.length := List.length_pos_iff.2 (by simpa using hempty)
      obtain ⟨others, hothers⟩ : ∃ others,
          List.replicate (staff batch settings.workers) Worker.looking = .looking :: others := by
        obtain ⟨n, hn⟩ : ∃ n, staff batch settings.workers = n + 1 :=
          ⟨staff batch settings.workers - 1, by unfold staff; omega⟩
        exact ⟨List.replicate n .looking, by rw [hn, List.replicate_succ]⟩
      rw [hothers]
      cases h
      exact collect_steps settings _ (by simp) (by simp) batch.distinct

/-- With a system that fits and time enough, all results come in. -/
theorem exists_collect_eq_ok {settings : Batch.PoolSettings} (hv : sys.Valid)
    (hfits : sys.size < setLimit)
    (htime : ∀ n, settings.clock.gone n ≤ settings.limit.nanoseconds) (hc : c.Reached sys)
    (count : Nat) (results : Results) (jobs : List (String × Formula)) :
    ∃ final, (Batch.collect settings count results jobs (c.session sys)).1 = .ok final := by
  induction jobs generalizing c results with
  | nil => exact ⟨results, rfl⟩
  | cons job jobs ih =>
    obtain ⟨name, f⟩ := job
    obtain ⟨b, hb⟩ := hc.exists_check_eq_ok hv hfits f
    have hnext := (Relation.ReflTransGen.trans hc (Checker.Steps.check sys c f)).tail
      (.report _ (.finished name))
    unfold Batch.collect
    rw [if_neg (Nat.not_lt.2 (htime results.size))]
    simp only [Session.check, Session.execute, Checker.session] at hb ⊢
    generalize (sys.check f).run c.store = ended at hb hnext ⊢
    obtain ⟨outcome, store⟩ := ended
    obtain rfl : outcome = .ok b := hb
    exact ih hnext (results.insert name b)

theorem exists_pooled_eq_ok {settings : Batch.PoolSettings} (hv : sys.Valid)
    (hfits : sys.size < setLimit)
    (htime : ∀ n, settings.clock.gone n ≤ settings.limit.nanoseconds)
    (hdeadline : settings.clock.start + settings.limit.nanoseconds / 1000000000 ≤ Batch.endOfClock)
    (hc : c.Reached sys) (batch : Batch) :
    ∃ results, (batch.pooled settings (c.session sys)).1 = .ok (.ok results) := by
  unfold Batch.pooled
  rw [if_neg (Nat.not_lt.2 hdeadline)]
  split
  · exact ⟨∅, rfl⟩
  · have hstarted := Relation.ReflTransGen.tail hc
      (.report c (.poolStarted (staff batch settings.workers) batch.jobs.length))
    obtain ⟨final, hfinal⟩ :=
      exists_collect_eq_ok hv hfits htime hstarted batch.jobs.length ∅ batch.jobs
    exact ⟨final, congrArg Except.ok hfinal⟩

/-! ## Agreement -/

/-- **A pool agrees with checking in order**, for every number of workers, every
state of the checker and every order of steps. Results that it returns have one
entry for each formula, and are those of checking in order; without a fault and
in time it returns nothing but results; the channel is never disconnected while
results are missing; and apart from the time, an error names a formula of the
batch whose own evaluation has broken off. -/
theorem pool_agrees_with_inOrder (hc : c.Reached sys)
    (hp : Steps sys batch limit (start batch threads c) p) :
    (∀ results, p.collector = .returned (.ok results) →
      results.size = batch.jobs.length ∧
      (∀ name, name ∈ results ↔ name ∈ batch.jobs.map (·.1)) ∧
      ∀ other : Checker, other.Reached sys →
        ((batch.inOrder sys).run other.store).1 = .ok results) ∧
    (∀ outcome, p.collector = .returned outcome → outcome ≠ .error (.timedOut limit) →
      (∀ call ∈ p.newCalls c, call.formula ∈ batch.jobs.map (·.2) →
        ∀ fault, call.rest.outcome? ≠ some (.error fault)) →
      ∃ results, outcome = .ok results) ∧
    (∀ results, p.collector = .collecting results → results.size < batch.jobs.length →
      ¬p.Disconnected) ∧
    (∀ error, p.collector = .returned (.error error) →
      error = .timedOut limit ∨ ∃ name fault, error = .brokenOff name fault ∧
        ∃ call ∈ p.newCalls c, (name, call.formula) ∈ batch.jobs ∧
          call.rest.outcome? = some (.error fault)) := by
  have h := hp.consistent (start_consistent batch limit threads c)
  refine ⟨fun results hr => ?_, fun outcome hr htime hfault => ?_,
    fun results hr hn => (h.accounted results hr).not_disconnected hn,
    fun error hr => exists_of_returned_error h hr⟩
  · have hsound : p.checker.Sound sys := by
      refine Checker.Reached.sound (Relation.ReflTransGen.trans hc ?_)
      exact (start_steps batch threads c).trans hp.checker
    obtain ⟨hgenuine, hall⟩ := h.of_returned_ok hr
    have hkeys : ∀ name ∈ results, name ∈ batch.jobs.map (·.1) :=
      fun name hname => hgenuine.mem_names hname
    refine ⟨Nat.le_antisymm ?_ (Batch.length_le_size hall),
      fun name => ⟨hkeys name, hall name⟩, fun other hother => ?_⟩
    · exact Batch.size_le_length hkeys
    · exact Batch.inOrder_run_fst hother.sound.faithful hkeys (hgenuine.getElem?_eq hsound hall)
  · cases outcome with
    | ok results => exact ⟨results, rfl⟩
    | error error =>
      rcases exists_of_returned_error h hr with rfl | ⟨name, fault, -, call, hcall, hjob, ho⟩
      · exact absurd rfl htime
      · exact absurd ho (hfault call hcall (List.mem_map_of_mem hjob) fault)

/-- Whether `p` holds in a state, and whether it does in a successor. -/
def nowAndNext : Batch := ⟨[("now", .atom "p"), ("next", .ex (.atom "p"))], by decide⟩

/-- A minute for two workers, on a clock that shows an hour and stands still. -/
def aMinute : Batch.PoolSettings where
  workers := 2
  limit := ⟨60000000000⟩
  clock := { start := 3600, gone := fun _ => 0 }

theorem pool_agrees_with_inOrder_two :
    Checker.Reached System.twoStates {} ∧
    ∃ p results, Steps System.twoStates nowAndNext aMinute.limit (start nowAndNext 2 {}) p ∧
      p.collector = .returned (.ok results) ∧ results.size = 2 ∧
      (∀ name, name ∈ results ↔ name ∈ ["now", "next"]) ∧
      ((nowAndNext.inOrder System.twoStates).run {}).1 = .ok results := by
  have hv : System.twoStates.Valid := System.violation?_eq_none.1 (by decide +kernel)
  have htime : ∀ n, aMinute.clock.gone n ≤ aMinute.limit.nanoseconds := fun _ => Nat.zero_le _
  obtain ⟨results, hpooled⟩ :=
    exists_pooled_eq_ok hv (by decide +kernel) htime (by decide) .refl nowAndNext
  obtain ⟨p, hp, hr, -⟩ := pooled_steps nowAndNext aMinute {} hpooled
  obtain ⟨hsize, hkeys, hinOrder⟩ := (pool_agrees_with_inOrder .refl hp).1 results hr
  exact ⟨.refl, p, results, hp, hr, hsize, hkeys, hinOrder {} .refl⟩

end Pool

end BranchingTime
