/-
A batch in the hands of a pool of workers, step by step. All workers take their
jobs from one queue and check them on one checker, an access at a time; whoever
else uses the checker may do so in between. What comes of a job goes into a
channel, and the caller collects from there until it has all results, an
evaluation has broken off or the time is over, which can happen at any moment.
In the last two cases the workers are told to stop. They look at that before
every job, so that some may go on for a while after the caller has left.

Two things hold in all states of a pool (`Consistent`). Everything that the
caller has, or will ever get, is the outcome of a call that was made for a job of
the batch. And as long as the caller collects, every job is in exactly one place:
in the queue, with a worker, in the channel or among the results; so the channel
does not run dry before the results are complete.
-/
import BranchingTime.Proofs.Checker
import Mathlib.Data.List.Perm.Subperm

namespace BranchingTime

/-- What a worker does next. -/
inductive Worker where
  /-- See whether it has to stop. -/
  | looking
  /-- Take a job from the queue. -/
  | taking
  /-- Go on with the call at this index, then send what has come of it under this
  name. -/
  | checking (name : String) (index : Nat)
  /-- Nothing any more. -/
  | gone

/-- What a worker sends: the name of a formula and the outcome of its check. -/
abbrev Message := String × Except Fault Bounds

/-- What the caller does next. -/
inductive Collector where
  /-- Receive a message, unless there are results for all formulas. -/
  | collecting (results : Results)
  /-- Tell the workers to stop. -/
  | stopping (error : BatchError) (e : Event)
  /-- Report and return the error. -/
  | leaving (error : BatchError) (e : Event)
  | returned (outcome : Except BatchError Results)

structure Pool where
  checker : Checker
  queue : List (String × Formula)
  workers : List Worker
  /-- Whether the workers have been told to stop. -/
  stopped : Bool := false
  channel : List Message := []
  collector : Collector

namespace Batch

/-- The first formula without a result. -/
def firstMissing (batch : Batch) (results : Results) : String :=
  ((batch.jobs.map (·.1)).find? fun name => !results.contains name).getD ""

end Batch

namespace Pool

/-- A worker does something. -/
def put (p : Pool) (i : Nat) (w : Worker) : Pool := { p with workers := p.workers.set i w }

/-- The caller still has its end of the channel. -/
def Listening (p : Pool) : Prop := ∀ outcome, p.collector ≠ .returned outcome

/-- Nothing is in the channel, and nobody is left to send. -/
def Disconnected (p : Pool) : Prop := p.channel = [] ∧ ∀ w ∈ p.workers, w = .gone

/-- What can happen next in a pool. -/
inductive Step (sys : System) (batch : Batch) (limit : Duration) : Pool → Pool → Prop
  /-- On the checker: a worker goes on with its call, or somebody else uses it. -/
  | check {p : Pool} {c : Checker} (h : Checker.Step sys p.checker c) :
    Step sys batch limit p { p with checker := c }
  | look {p : Pool} (i : Nat) (hi : p.workers[i]? = some .looking) (h : p.stopped = false) :
    Step sys batch limit p (p.put i .taking)
  | obey {p : Pool} (i : Nat) (hi : p.workers[i]? = some .looking) (h : p.stopped = true) :
    Step sys batch limit p (p.put i .gone)
  | take {p : Pool} (i : Nat) {name : String} {f : Formula} {rest : List (String × Formula)}
    (hi : p.workers[i]? = some .taking) (hq : p.queue = (name, f) :: rest) :
    Step sys batch limit p { p.put i (.checking name p.checker.calls.length) with
      queue := rest, checker := p.checker.call sys f }
  | idle {p : Pool} (i : Nat) (hi : p.workers[i]? = some .taking) (hq : p.queue = []) :
    Step sys batch limit p (p.put i .gone)
  | send {p : Pool} (i : Nat) {name : String} {index : Nat} {call : Call}
    {outcome : Except Fault Bounds} (hi : p.workers[i]? = some (.checking name index))
    (hcall : p.checker.calls[index]? = some call) (ho : call.rest.outcome? = some outcome)
    (h : p.Listening) :
    Step sys batch limit p { p.put i .looking with channel := p.channel ++ [(name, outcome)] }
  | sendInVain {p : Pool} (i : Nat) {name : String} {index : Nat} {call : Call}
    {outcome : Except Fault Bounds} (hi : p.workers[i]? = some (.checking name index))
    (hcall : p.checker.calls[index]? = some call) (ho : call.rest.outcome? = some outcome)
    (h : ¬p.Listening) :
    Step sys batch limit p (p.put i .gone)
  | receive {p : Pool} {results : Results} {name : String} {b : Bounds} {rest : List Message}
    (hp : p.collector = .collecting results) (hn : results.size < batch.jobs.length)
    (hm : p.channel = (name, .ok b) :: rest) :
    Step sys batch limit p { p with
      checker := p.checker.report (.finished name), channel := rest,
      collector := .collecting (results.insert name b) }
  | receiveFault {p : Pool} {results : Results} {name : String} {fault : Fault}
    {rest : List Message} (hp : p.collector = .collecting results)
    (hn : results.size < batch.jobs.length) (hm : p.channel = (name, .error fault) :: rest) :
    Step sys batch limit p { p with
      channel := rest,
      collector := .stopping (.brokenOff name fault)
        (.failed (BatchError.brokenOff name fault).message) }
  | timeOut {p : Pool} {results : Results} (hp : p.collector = .collecting results)
    (hn : results.size < batch.jobs.length) :
    Step sys batch limit p { p with
      collector := .stopping (.timedOut limit)
        (.timedOut limit results.size batch.jobs.length) }
  | desert {p : Pool} {results : Results} (hp : p.collector = .collecting results)
    (hn : results.size < batch.jobs.length) (h : p.Disconnected) :
    Step sys batch limit p { p with
      collector := .returned (.error (.deserted (batch.firstMissing results))) }
  | stop {p : Pool} {error : BatchError} {e : Event} (hp : p.collector = .stopping error e) :
    Step sys batch limit p { p with stopped := true, collector := .leaving error e }
  | leave {p : Pool} {error : BatchError} {e : Event} (hp : p.collector = .leaving error e) :
    Step sys batch limit p { p with
      checker := p.checker.report e, collector := .returned (.error error) }
  | complete {p : Pool} {results : Results} (hp : p.collector = .collecting results)
    (hn : ¬results.size < batch.jobs.length) :
    Step sys batch limit p { p with
      checker := p.checker.report (.validated batch.jobs.length),
      collector := .returned (.ok results) }

/-- One thing after another, in any order that is possible. -/
abbrev Steps (sys : System) (batch : Batch) (limit : Duration) : Pool → Pool → Prop :=
  Relation.ReflTransGen (Step sys batch limit)

/-- The number of workers: those asked for, but at least one and not more than
there are jobs. -/
def staff (batch : Batch) (threads : Nat) : Nat := min (max threads 1) batch.jobs.length

/-- The pool when the caller starts to collect. For an empty batch none is
needed. -/
def start (batch : Batch) (threads : Nat) (c : Checker) : Pool :=
  if batch.jobs.isEmpty then
    { checker := c, queue := [], workers := [], collector := .returned (.ok ∅) }
  else
    { checker := c.report (.poolStarted (staff batch threads) batch.jobs.length)
      queue := batch.jobs
      workers := List.replicate (staff batch threads) .looking
      collector := .collecting ∅ }

variable {sys : System} {batch : Batch} {limit : Duration} {p p' : Pool} {base : Nat}

/-- What happens in a pool happens on its checker as well, or leaves it alone. -/
theorem Step.checker (hs : Step sys batch limit p p') :
    Checker.Steps sys p.checker p'.checker := by
  cases hs with
  | check h => exact .single h
  | take i hi hq => exact .single (.call _ _)
  | receive hp hn hm => exact .single (.report _ _)
  | leave hp => exact .single (.report _ _)
  | complete hp hn => exact .single (.report _ _)
  | look | obey | idle | send | sendInVain | receiveFault | timeOut | desert | stop => exact .refl

theorem Steps.checker (hs : Steps sys batch limit p p') :
    Checker.Steps sys p.checker p'.checker := by
  induction hs with
  | refl => exact .refl
  | tail _ hstep ih => exact ih.trans hstep.checker

end Pool

/-! ## Where results come from -/

section

variable (batch : Batch) (limit : Duration) (base : Nat) (c : Checker)

/-- The call at the index was made for the job of this name, when there were
`base` calls already. -/
structure MadeFor (name : String) (index : Nat) (call : Call) : Prop where
  since : base ≤ index
  found : c.calls[index]? = some call
  job : (name, call.formula) ∈ batch.jobs

/-- A call for the job of this name has ended so. -/
def Evaluated (name : String) (outcome : Except Fault Bounds) : Prop :=
  ∃ index call, MadeFor batch base c name index call ∧ call.rest.outcome? = some outcome

/-- There is a reason for the error: the time, or a call for a job of the batch
that broke off. -/
def Justified : BatchError → Prop
  | .timedOut duration => duration = limit
  | .brokenOff name fault => Evaluated batch base c name (.error fault)
  | .repeatedName _ | .deserted _ => False

/-- All results are outcomes of calls for their jobs. -/
def Genuine (results : Results) : Prop :=
  ∀ name b, results[name]? = some b → Evaluated batch base c name (.ok b)

/-- What the caller has, it has for a reason; results that it returns are
complete. -/
def Collector.Backed : Collector → Prop
  | .collecting results => Genuine batch base c results
  | .stopping error _ | .leaving error _ | .returned (.error error) =>
    Justified batch limit base c error
  | .returned (.ok results) =>
    Genuine batch base c results ∧ ∀ name ∈ batch.jobs.map (·.1), name ∈ results

end

section

variable {batch : Batch} {limit : Duration} {base : Nat} {c c' : Checker} {name : String}

theorem MadeFor.keep {index : Nat} {call : Call} (h : MadeFor batch base c name index call)
    (hk : c.Keeps c') : ∃ later, MadeFor batch base c' name index later ∧
      ∀ {outcome}, call.rest.outcome? = some outcome → later.rest.outcome? = some outcome := by
  obtain ⟨later, hlater, hformula, hended⟩ := hk index call h.found
  exact ⟨later, ⟨h.since, hlater, hformula ▸ h.job⟩, hended⟩

theorem Evaluated.keep {outcome : Except Fault Bounds} (h : Evaluated batch base c name outcome)
    (hk : c.Keeps c') : Evaluated batch base c' name outcome := by
  obtain ⟨index, call, hmade, ho⟩ := h
  obtain ⟨later, hlater, hended⟩ := hmade.keep hk
  exact ⟨index, later, hlater, hended ho⟩

theorem Evaluated.mem_names {outcome : Except Fault Bounds}
    (h : Evaluated batch base c name outcome) : name ∈ batch.jobs.map (·.1) := by
  obtain ⟨index, call, hmade, -⟩ := h
  exact List.mem_map_of_mem hmade.job

theorem Genuine.exists_of_mem {results : Results} (h : Genuine batch base c results)
    (hname : name ∈ results) :
    ∃ b, results[name]? = some b ∧ Evaluated batch base c name (.ok b) := by
  obtain ⟨b, hb⟩ :=
    Option.isSome_iff_exists.1 (Std.ExtTreeMap.mem_iff_isSome_getElem?.1 hname)
  exact ⟨b, hb, h name b hb⟩

theorem Genuine.mem_names {results : Results} (h : Genuine batch base c results)
    (hname : name ∈ results) : name ∈ batch.jobs.map (·.1) := by
  obtain ⟨b, -, hevaluated⟩ := h.exists_of_mem hname
  exact hevaluated.mem_names

theorem Justified.keep {error : BatchError} (h : Justified batch limit base c error)
    (hk : c.Keeps c') : Justified batch limit base c' error := by
  cases error with
  | brokenOff name fault => exact Evaluated.keep h hk
  | timedOut | repeatedName | deserted => exact h

theorem Genuine.keep {results : Results} (h : Genuine batch base c results)
    (hk : c.Keeps c') : Genuine batch base c' results :=
  fun name b hb => (h name b hb).keep hk

theorem Collector.Backed.keep {collector : Collector} (h : collector.Backed batch limit base c)
    (hk : c.Keeps c') : collector.Backed batch limit base c' := by
  match collector, h with
  | .collecting _, h => exact Genuine.keep h hk
  | .stopping _ _, h | .leaving _ _, h | .returned (.error _), h => exact Justified.keep h hk
  | .returned (.ok _), h => exact ⟨Genuine.keep h.1 hk, h.2⟩

end

/-! ## Where jobs are -/

theorem countP_set_add {α : Type} {l : List α} {i : Nat} {a b : α} (h : l[i]? = some a)
    (test : α → Bool) :
    (l.set i b).countP test + (test a).toNat = l.countP test + (test b).toNat := by
  induction l generalizing i with
  | nil => cases h
  | cons x l ih =>
    cases i with
    | zero =>
      cases h
      simp only [List.set_cons_zero, List.countP_cons]
      cases test a <;> cases test b <;> simp
    | succ i =>
      have := ih h
      simp only [List.set_cons_succ, List.countP_cons]
      omega

namespace Batch

variable {batch : Batch} {results : Results}

theorem countP_le_one (batch : Batch) (name : String) :
    batch.jobs.countP (·.1 == name) ≤ 1 := by
  have := List.nodup_iff_count.1 batch.distinct name
  rwa [List.count, List.countP_map] at this

theorem countP_pos {name : String} (h : name ∈ batch.jobs.map (·.1)) :
    0 < batch.jobs.countP (·.1 == name) := by
  rw [List.countP_pos_iff]
  obtain ⟨job, hjob, rfl⟩ := List.mem_map.1 h
  exact ⟨job, hjob, by simp⟩

/-- Results for all formulas are as many as there are jobs. -/
theorem length_le_size (h : ∀ name ∈ batch.jobs.map (·.1), name ∈ results) :
    batch.jobs.length ≤ results.size := by
  have hsub : batch.jobs.map (·.1) ⊆ results.keys :=
    fun name hname => Std.ExtTreeMap.mem_keys.2 (h name hname)
  have := (batch.distinct.subperm hsub).length_le
  rwa [List.length_map, Std.ExtTreeMap.length_keys] at this

/-- There are not more results of formulas than jobs. -/
theorem size_le_length (hr : ∀ name ∈ results, name ∈ batch.jobs.map (·.1)) :
    results.size ≤ batch.jobs.length := by
  have hsub : results.keys ⊆ batch.jobs.map (·.1) :=
    fun name hname => hr name (Std.ExtTreeMap.mem_keys.1 hname)
  have := (Std.ExtTreeMap.nodup_keys.subperm hsub).length_le
  rwa [List.length_map, Std.ExtTreeMap.length_keys] at this

/-- Results of as many formulas as there are jobs are results for all. -/
theorem mem_of_length_le_size (hr : ∀ name ∈ results, name ∈ batch.jobs.map (·.1))
    (h : batch.jobs.length ≤ results.size) :
    ∀ name ∈ batch.jobs.map (·.1), name ∈ results := by
  have hsub : results.keys ⊆ batch.jobs.map (·.1) :=
    fun name hname => hr name (Std.ExtTreeMap.mem_keys.1 hname)
  have hperm := (Std.ExtTreeMap.nodup_keys.subperm hsub).perm_of_length_le (by simpa using h)
  exact fun name hname => Std.ExtTreeMap.mem_keys.1 (hperm.mem_iff.2 hname)

end Batch

/-- The worker has the job of this name. -/
def Worker.holds (name : String) : Worker → Bool
  | .checking other _ => other == name
  | .looking | .taking | .gone => false

@[simp]
theorem Worker.holds_checking (name other : String) (index : Nat) :
    (checking other index).holds name = (other == name) := rfl

@[simp]
theorem Worker.holds_looking (name : String) : looking.holds name = false := rfl

@[simp]
theorem Worker.holds_taking (name : String) : taking.holds name = false := rfl

@[simp]
theorem Worker.holds_gone (name : String) : gone.holds name = false := rfl

namespace Pool

variable {sys : System} {batch : Batch} {limit : Duration} {base : Nat} {p p' : Pool}
  {results : Results}

/-- In how many places the job of this name is. -/
def places (p : Pool) (results : Results) (name : String) : Nat :=
  p.queue.countP (·.1 == name) + p.workers.countP (·.holds name) +
    p.channel.countP (·.1 == name) + (results.contains name).toNat

/-- While results are collected: all jobs of the batch are in one place, other
jobs in none, and workers leave only when no jobs are left. -/
structure Accounted (batch : Batch) (p : Pool) (results : Results) : Prop where
  going : p.stopped = false
  once : ∀ name, p.places results name = batch.jobs.countP (·.1 == name)
  drained : .gone ∈ p.workers → p.queue = []
  staffed : p.workers ≠ []

/-- **The channel is not disconnected** before the results are complete: a job
that is nowhere else is among them. -/
theorem Accounted.not_disconnected (h : p.Accounted batch results)
    (hn : results.size < batch.jobs.length) : ¬p.Disconnected := by
  rintro ⟨hchannel, hgone⟩
  obtain ⟨w, hw⟩ := List.exists_mem_of_ne_nil _ h.staffed
  obtain rfl := hgone w hw
  have hqueue := h.drained hw
  have hheld : ∀ name, p.workers.countP (·.holds name) = 0 := by
    intro name
    rw [List.countP_eq_zero]
    intro w hw
    simp [hgone w hw]
  have hall : ∀ name ∈ batch.jobs.map (·.1), name ∈ results := by
    intro name hname
    have honce := h.once name
    have hpos := Batch.countP_pos hname
    simp only [places, hqueue, hchannel, hheld, List.countP_nil] at honce
    cases hc : results.contains name with
    | false => simp only [hc, Bool.toNat_false] at honce; omega
    | true => exact Std.ExtTreeMap.contains_iff_mem.1 hc
  have := Batch.length_le_size hall
  omega

/-! ## The invariant -/

/-- What holds in every state of a pool that started with `base` calls on its
checker. -/
structure Consistent (batch : Batch) (limit : Duration) (base : Nat) (p : Pool) : Prop where
  since : base ≤ p.checker.calls.length
  queued : ∀ job ∈ p.queue, job ∈ batch.jobs
  working : ∀ name index, .checking name index ∈ p.workers →
    ∃ call, MadeFor batch base p.checker name index call
  sent : ∀ m ∈ p.channel, Evaluated batch base p.checker m.1 m.2
  backed : p.collector.Backed batch limit base p.checker
  accounted : ∀ results, p.collector = .collecting results → p.Accounted batch results

/-- Results that are returned are genuine and complete. -/
theorem Consistent.of_returned_ok (h : p.Consistent batch limit base)
    (hr : p.collector = .returned (.ok results)) :
    Genuine batch base p.checker results ∧ ∀ name ∈ batch.jobs.map (·.1), name ∈ results := by
  have hbacked := h.backed
  rw [hr] at hbacked
  exact hbacked

theorem Step.queued (hs : Step sys batch limit p p') (h : p.Consistent batch limit base) :
    ∀ job ∈ p'.queue, job ∈ batch.jobs := by
  cases hs with
  | take i hi hq =>
    intro job hjob
    exact h.queued job (hq ▸ List.mem_cons_of_mem _ hjob)
  | check | look | obey | idle | send | sendInVain | receive | receiveFault | timeOut | desert
  | stop | leave | complete => exact h.queued

/-- A worker that has no job puts none forward. -/
theorem mem_of_mem_put {i : Nat} {w : Worker} {name : String} {index : Nat}
    (hw : w.holds name = false) (h : .checking name index ∈ (p.put i w).workers) :
    .checking name index ∈ p.workers := by
  rcases List.mem_or_eq_of_mem_set h with h | rfl
  · exact h
  · simp at hw

theorem Step.working (hs : Step sys batch limit p p') (h : p.Consistent batch limit base)
    (name : String) (index : Nat) (hw : .checking name index ∈ p'.workers) :
    ∃ call, MadeFor batch base p'.checker name index call := by
  have hk := hs.checker.keeps
  -- the call of a worker that was at work before is still there
  have old : .checking name index ∈ p.workers →
      ∃ call, MadeFor batch base p'.checker name index call := by
    intro hw
    obtain ⟨call, hmade⟩ := h.working name index hw
    obtain ⟨later, hlater, -⟩ := hmade.keep hk
    exact ⟨later, hlater⟩
  cases hs with
  | @take i name f rest hi hq =>
    rcases List.mem_or_eq_of_mem_set hw with hw | he
    · exact old hw
    · cases he
      refine ⟨⟨f, sys.check f⟩, h.since, by simp [Checker.call], h.queued _ ?_⟩
      rw [hq]
      exact List.mem_cons_self
  | look | obey | idle | send | sendInVain => exact old (mem_of_mem_put rfl hw)
  | check | receive | receiveFault | timeOut | desert | stop | leave | complete => exact old hw

theorem Step.sent (hs : Step sys batch limit p p') (h : p.Consistent batch limit base) :
    ∀ m ∈ p'.channel, Evaluated batch base p'.checker m.1 m.2 := by
  have old : ∀ m ∈ p.channel, Evaluated batch base p'.checker m.1 m.2 :=
    fun m hm => (h.sent m hm).keep hs.checker.keeps
  cases hs with
  | @send i name index call outcome hi hcall ho hl =>
    intro m hm
    rcases List.mem_append.1 hm with hm | hm
    · exact old m hm
    · obtain rfl := List.mem_singleton.1 hm
      obtain ⟨made, hmade⟩ := h.working name index (List.mem_of_getElem? hi)
      obtain rfl := Option.some.inj (hmade.found.symm.trans hcall)
      exact ⟨index, made, hmade, ho⟩
  | receive hp hn hm => exact fun m hmem => old m (hm ▸ List.mem_cons_of_mem _ hmem)
  | receiveFault hp hn hm => exact fun m hmem => old m (hm ▸ List.mem_cons_of_mem _ hmem)
  | check | look | obey | take | idle | sendInVain | timeOut | desert | stop | leave
  | complete => exact old

theorem Step.backed (hs : Step sys batch limit p p') (h : p.Consistent batch limit base) :
    p'.collector.Backed batch limit base p'.checker := by
  have old := h.backed.keep hs.checker.keeps
  have sent : ∀ m ∈ p.channel, Evaluated batch base p'.checker m.1 m.2 :=
    fun m hm => (h.sent m hm).keep hs.checker.keeps
  cases hs with
  | @receive results name b rest hp hn hm =>
    rw [hp] at old
    intro other b' hb'
    rw [Std.ExtTreeMap.getElem?_insert] at hb'
    split at hb'
    next he =>
      cases hb'
      obtain rfl := Std.LawfulEqCmp.eq_of_compare he
      exact sent (name, .ok b) (hm ▸ List.mem_cons_self)
    next => exact old other b' hb'
  | @receiveFault results name fault rest hp hn hm =>
    exact sent (name, .error fault) (hm ▸ List.mem_cons_self)
  | timeOut hp hn => exact rfl
  | desert hp hn hd => exact absurd hd ((h.accounted _ hp).not_disconnected hn)
  | stop hp | leave hp =>
    rw [hp] at old
    exact old
  | complete hp hn =>
    rw [hp] at old
    refine ⟨old, Batch.mem_of_length_le_size (fun name hname => ?_) (Nat.not_lt.1 hn)⟩
    exact Genuine.mem_names old hname
  | check | look | obey | take | idle | send | sendInVain => exact old

theorem put_staffed {i : Nat} {w : Worker} (h : p.workers ≠ []) : (p.put i w).workers ≠ [] := by
  simpa [Pool.put] using h

/-- Workers leave one by one. -/
theorem gone_mem_of_mem_put {i : Nat} {w : Worker} (h : .gone ∈ (p.put i w).workers)
    (hw : w ≠ .gone) : .gone ∈ p.workers := by
  rcases List.mem_or_eq_of_mem_set h with h | he
  · exact h
  · exact absurd he.symm hw

/-- A worker without a job takes up no place. -/
theorem Accounted.put {i : Nat} {w w' : Worker} (h : p.Accounted batch results)
    (hi : p.workers[i]? = some w) (hw : ∀ name, w.holds name = false)
    (hw' : ∀ name, w'.holds name = false) (hgone : w' = .gone → p.queue = []) :
    (p.put i w').Accounted batch results := by
  refine ⟨h.going, fun name => ?_, fun hmem => ?_, put_staffed h.staffed⟩
  · have hset := countP_set_add hi (b := w') (·.holds name)
    have honce := h.once name
    simp only [hw, hw', Bool.toNat_false] at hset
    simp only [places, Pool.put] at honce ⊢
    omega
  · rcases List.mem_or_eq_of_mem_set hmem with hmem | he
    · exact h.drained hmem
    · exact hgone he.symm

theorem Step.accounted (hs : Step sys batch limit p p') (h : p.Consistent batch limit base)
    (results : Results) (hp' : p'.collector = .collecting results) :
    p'.Accounted batch results := by
  cases hs with
  | check hc => exact ⟨(h.accounted _ hp').going, (h.accounted _ hp').once,
      (h.accounted _ hp').drained, (h.accounted _ hp').staffed⟩
  | look i hi hstop => exact (h.accounted _ hp').put hi (fun _ => rfl) (fun _ => rfl) nofun
  | obey i hi hstop => simp [(h.accounted _ hp').going] at hstop
  | idle i hi hq =>
    exact (h.accounted _ hp').put hi (fun _ => rfl) (fun _ => rfl) fun _ => hq
  | @take i name f rest hi hq =>
    obtain ⟨hgoing, honce, hdrained, hstaffed⟩ := h.accounted _ hp'
    refine ⟨hgoing, fun other => ?_, fun hmem => ?_, put_staffed hstaffed⟩
    · -- from the queue to the worker
      have hset := countP_set_add hi (b := .checking name p.checker.calls.length) (·.holds other)
      have := honce other
      simp only [places, hq, List.countP_cons, Pool.put] at this ⊢
      cases hname : name == other <;> simp [hname] at hset this <;> omega
    · have hmem : .gone ∈ (p.put i (.checking name p.checker.calls.length)).workers := hmem
      rw [hdrained (gone_mem_of_mem_put hmem nofun)] at hq
      cases hq
  | @send i name index call outcome hi hcall ho hl =>
    obtain ⟨hgoing, honce, hdrained, hstaffed⟩ := h.accounted _ hp'
    refine ⟨hgoing, fun other => ?_, fun hmem => ?_, put_staffed hstaffed⟩
    · -- from the worker to the channel
      have hset := countP_set_add hi (b := .looking) (·.holds other)
      have := honce other
      simp only [places, List.countP_append, List.countP_cons, List.countP_nil, Pool.put] at this ⊢
      cases hname : name == other <;> simp [hname] at hset ⊢ <;> omega
    · have hmem : .gone ∈ (p.put i .looking).workers := hmem
      exact hdrained (gone_mem_of_mem_put hmem nofun)
  | sendInVain i hi hcall ho hl => exact absurd (fun outcome hr => by cases hr.symm.trans hp') hl
  | @receive results name b rest hp hn hm =>
    cases hp'
    obtain ⟨hgoing, honce, hdrained, hstaffed⟩ := h.accounted _ hp
    refine ⟨hgoing, fun other => ?_, hdrained, hstaffed⟩
    -- from the channel to the results, where it was not before
    have := honce other
    have hone := batch.countP_le_one other
    simp only [places, hm, List.countP_cons, Std.ExtTreeMap.contains_insert] at this ⊢
    by_cases hname : name = other
    · subst hname
      simp only [BEq.rfl, if_true, Std.ReflCmp.compare_self, Bool.true_or,
        Bool.toNat_true] at this ⊢
      omega
    · have hcompare : (compare name other == .eq) = false := by simpa using hname
      simp only [beq_eq_false_iff_ne.2 hname, hcompare, Bool.false_or] at this ⊢
      simpa using this
  | receiveFault | timeOut | desert | stop | leave | complete => cases hp'

/-- **One step keeps the invariant.** -/
theorem Step.consistent (hs : Step sys batch limit p p') (h : p.Consistent batch limit base) :
    p'.Consistent batch limit base where
  since := Nat.le_trans h.since hs.checker.keeps.length_le
  queued := hs.queued h
  working := hs.working h
  sent := hs.sent h
  backed := hs.backed h
  accounted := hs.accounted h

theorem Steps.consistent (hs : Steps sys batch limit p p') (h : p.Consistent batch limit base) :
    p'.Consistent batch limit base := by
  induction hs with
  | refl => exact h
  | tail _ hstep ih => exact hstep.consistent ih

end Pool

end BranchingTime
