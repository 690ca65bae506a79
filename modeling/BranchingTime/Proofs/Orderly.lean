/-
Nothing goes wrong inside the evaluator. A program is `Orderly` if every access that it
will ever make is in order: it records bounds of core formulas only, of which the lower
is inside the upper and that inside the system; what it reports adds up; and the only
fault by which it breaks off is that the states do not fit into a set. So bounds never
cross, no formula outside the core gets as far as the evaluator, and no iteration takes
more rounds than there are states, and one more.

All that an orderly program asks of the store is that the entries are in order. They
need not be right, which is why this argument does not go through `Ensures`. An access
leaves such a store as it should be (`Orderly.step`), whoever else uses it; so in every
history of a checker all calls are orderly (`Reached.orderly`).
-/
import BranchingTime.Proofs.Soundness

namespace BranchingTime

/-- The numbers in a report are right. What is undecided is what the upper bound has
beyond the lower one, so the difference of their sizes is not cut off at zero. -/
def Event.Proper (sys : System) : Event → Prop
  | .evaluated f satisfied undecided =>
    f.isCore = true ∧ ∃ b, sys.Within b ∧ satisfied = b.lower.size ∧
      satisfied + undecided = b.upper.size
  | .greatestReached rounds | .leastReached rounds => rounds ≤ sys.size + 1
  | _ => True

/-- The bounds in the store are those of core formulas, with the lower inside the upper
and that inside the system, and the core forms in it are core formulas. -/
structure Store.Orderly (sys : System) (store : Store) : Prop where
  bounds : ∀ {f : Formula} {b : Bounds}, store.bounds[f]? = some b →
    f.isCore = true ∧ sys.Within b
  cores : ∀ {f core : Formula}, store.cores[f]? = some core → core.isCore = true

theorem Store.orderly_empty (sys : System) : Store.Orderly sys {} := by
  constructor <;> intro f _ h <;> simp at h

/-- A value of which `post` holds, or the fault that the states do not fit. -/
def System.Ends {α : Type} (sys : System) (post : α → Prop) : Except Fault α → Prop
  | .ok value => post value
  | .error fault => fault = .capacity ∧ setLimit ≤ sys.size

theorem System.OkIfFits.ends {α : Type} {sys : System} {post : α → Prop} {x : Except Fault α}
    {a : α} (h : sys.OkIfFits x a) (ha : post a) : sys.Ends post x := by
  rcases h with rfl | ⟨rfl, hsize⟩
  · exact ha
  · exact ⟨rfl, hsize⟩

namespace Access

variable {α β : Type} {sys : System} {store : Store} {p : Access α} {f : Formula}
  {post : α → Prop}

/-- Every access of the program is in order, and it ends with a value of which `post`
holds or since the states do not fit; as long as the entries that it reads are in order. -/
def Orderly (sys : System) (post : α → Prop) : Access α → Prop
  | done value => sys.Ends post (.ok value)
  | fail fault => sys.Ends post (.error fault)
  | fetch f next =>
    (next none).Orderly sys post ∧
      ∀ b, f.isCore = true → sys.Within b → (next (some b)).Orderly sys post
  | record f b next => f.isCore = true ∧ sys.Within b ∧ next.Orderly sys post
  | fetchCore _ next =>
    (next none).Orderly sys post ∧
      ∀ core, core.isCore = true → (next (some core)).Orderly sys post
  | recordCore _ core next => core.isCore = true ∧ next.Orderly sys post
  | count _ next => next.Orderly sys post
  | report e next => e.Proper sys ∧ next.Orderly sys post

theorem Orderly.bind {k : α → Access β} {last : β → Prop} (hp : p.Orderly sys post)
    (hk : ∀ value, post value → (k value).Orderly sys last) : (p >>= k).Orderly sys last := by
  rw [bind_eq]
  induction p with
  | done value => exact hk value hp
  | fail fault => exact hp
  | fetch f next ih => exact ⟨ih none hp.1, fun b hf hb => ih (some b) (hp.2 b hf hb)⟩
  | record f b next ih => exact ⟨hp.1, hp.2.1, ih hp.2.2⟩
  | fetchCore f next ih => exact ⟨ih none hp.1, fun core hcore => ih _ (hp.2 core hcore)⟩
  | recordCore f core next ih => exact ⟨hp.1, ih hp.2⟩
  | count lookups next ih => exact ih hp
  | report e next ih => exact ⟨hp.1, ih hp.2⟩

/-- **One access keeps everything in order.** -/
theorem Orderly.step (hs : store.Orderly sys) (hp : p.Orderly sys post) :
    (p.step store).2.Orderly sys ∧ (p.step store).1.Orderly sys post := by
  cases p with
  | done value | fail fault => exact ⟨hs, hp⟩
  | count lookups next => exact ⟨⟨hs.bounds, hs.cores⟩, hp⟩
  | report e next => exact ⟨⟨hs.bounds, hs.cores⟩, hp.2⟩
  | fetch f next =>
    refine ⟨hs, ?_⟩
    simp only [Access.step]
    cases hb : store.bounds[f]? with
    | none => exact hp.1
    | some b => exact hp.2 b (hs.bounds hb).1 (hs.bounds hb).2
  | fetchCore f next =>
    refine ⟨hs, ?_⟩
    simp only [Access.step]
    cases hc : store.cores[f]? with
    | none => exact hp.1
    | some core => exact hp.2 core (hs.cores hc)
  | record f b next =>
    obtain ⟨hcore, hwithin, hnext⟩ := hp
    refine ⟨⟨fun {g c} hc => ?_, hs.cores⟩, hnext⟩
    simp only [Access.step, Std.HashMap.getElem?_insert, beq_iff_eq] at hc
    split at hc
    next he =>
      cases he
      cases hc
      exact ⟨hcore, hwithin⟩
    next => exact hs.bounds hc
  | recordCore f core next =>
    obtain ⟨hcore, hnext⟩ := hp
    refine ⟨⟨hs.bounds, fun {g c} hc => ?_⟩, hnext⟩
    simp only [Access.step, Std.HashMap.getElem?_insert, beq_iff_eq] at hc
    split at hc
    next he =>
      cases hc
      exact hcore
    next => exact hs.cores hc

/-- So does a whole run, and it ends as it should. -/
theorem Orderly.run (hs : store.Orderly sys) (hp : p.Orderly sys post) :
    (p.run store).2.Orderly sys ∧ sys.Ends post (p.run store).1 := by
  have hstep := hp.step hs
  induction p generalizing store with
  | done value | fail fault => exact ⟨hs, hp⟩
  | fetch f next ih | fetchCore f next ih =>
    obtain ⟨hs, hp⟩ := hstep
    exact ih _ hs hp (hp.step hs)
  | record f b next ih | recordCore f core next ih | count lookups next ih | report e next ih =>
    obtain ⟨hs, hp⟩ := hstep
    exact ih hs hp (hp.step hs)

/-! ## Parts of programs -/

theorem Orderly.ofExcept {x : Except Fault α} (h : sys.Ends post x) :
    (ofExcept x).Orderly sys post := by
  cases x with
  | ok value => exact h
  | error fault => exact h

theorem Orderly.counted {x : Except Fault α} (lookups : Nat) (h : sys.Ends post x) :
    (counted lookups x).Orderly sys post :=
  (Orderly.ofExcept h).bind fun _ hvalue => hvalue

theorem orderly_everyState (sys : System) :
    (ofExcept sys.everyState).Orderly sys (· = sys.states) :=
  .ofExcept (System.everyState_okIfFits.ends rfl)

/-- Bounds that are in order pass the check. -/
theorem orderly_between {lower upper : Region} (h : sys.Within ⟨lower, upper⟩) :
    (ofExcept (Bounds.between lower upper)).Orderly sys sys.Within :=
  .ofExcept (Bounds.between_eq_ok h.ordered ▸ h)

/-- And the sets that are built for them fit, if all states do. -/
theorem ends_build {lower upper : Region} (h : sys.Within ⟨lower, upper⟩) :
    sys.Ends sys.Within (Bounds.build lower upper) :=
  (h.build_okIf.okIfFits h.fits).ends h

theorem Orderly.reuse {p : Access Bounds} (hf : f.isCore = true) (hp : p.Orderly sys sys.Within) :
    (reuse f p).Orderly sys sys.Within := by
  refine ⟨hp.bind fun b hb => ?_, fun b _ hb => ⟨trivial, hb⟩⟩
  have hsizes : b.lower.size ≤ b.upper.size := Region.size_le_of_subset hb.ordered
  exact ⟨⟨hf, b, hb, rfl, by omega⟩, hf, hb, hb⟩

end Access

/-! ## The evaluator -/

namespace System

open Access

variable {sys : System} {f : Formula} {b c : Bounds}

theorem rounds_greatest_le_size (rule : Rule) (candidates : Region) :
    (rule.greatest candidates sys.states).rounds ≤ sys.size + 1 := by
  have hle := rule.rounds_greatest_le candidates sys.states
  have hsize := sys.size_states
  omega

theorem rounds_least_le_size (rule : Rule) {base candidates : Region} (hbase : base ⊆ sys.states)
    (hcandidates : candidates ⊆ sys.states) :
    (rule.least base candidates).rounds ≤ sys.size + 1 := by
  have hle := rule.rounds_least_le base candidates
  have hunion : base ∪ candidates ⊆ sys.states := fun s hs =>
    (Std.ExtTreeSet.mem_union_iff.1 hs).elim (hbase s) (hcandidates s)
  have hsize := size_le_of_subset_states hunion
  omega

theorem orderly_evaluateAtom (hv : sys.Valid) (name : String) :
    (sys.evaluateAtom name).Orderly sys sys.Within := by
  have hwithin : sys.Within (.exact (sys.bearing name)) := .exact (bearing_subset hv name)
  unfold bearing at hwithin
  unfold evaluateAtom
  cases hindex : sys.index? name with
  | some index =>
    rw [hindex] at hwithin
    exact hwithin
  | none =>
    rw [hindex] at hwithin
    exact ⟨trivial, hwithin⟩

theorem orderly_greatestFixpoint (rule : Rule) (candidates : Region) :
    (sys.greatestFixpoint rule candidates).Orderly sys
      (· = (rule.greatest candidates sys.states).region) := by
  refine (orderly_everyState sys).bind ?_
  rintro _ rfl
  exact ⟨rounds_greatest_le_size rule candidates, rfl⟩

/-- The sets that the loop builds are inside the system, and fit if all states do. -/
theorem orderly_leastFixpoint (rule : Rule) {base candidates : Region}
    (hbase : base ⊆ sys.states) (hcandidates : candidates ⊆ sys.states) :
    (rule.leastFixpoint base candidates).Orderly sys
      (· = (rule.least base candidates).region) := by
  have hinside : (rule.least base candidates).region ⊆ sys.states :=
    Rule.forall_mem_least hbase fun _ _ t ht _ => hcandidates t ht
  have hheld := (held_okIf (rule.least base candidates).region).okIfFits
    (Nat.lt_of_le_of_lt (size_le_of_subset_states hinside))
  refine (Orderly.ofExcept (hheld.ends rfl)).bind ?_
  rintro _ rfl
  exact ⟨rounds_least_le_size rule hbase hcandidates, rfl⟩

theorem orderly_evaluateAlways (hb : sys.Within b) :
    (sys.evaluateAlways b).Orderly sys sys.Within := by
  refine (orderly_greatestFixpoint _ _).bind ?_
  rintro _ rfl
  refine (orderly_greatestFixpoint _ _).bind ?_
  rintro _ rfl
  exact orderly_between hb.always

theorem orderly_evaluateUntil (hb : sys.Within b) (hc : sys.Within c) :
    (sys.evaluateUntil b c).Orderly sys sys.Within := by
  have hlower : ∀ {b : Bounds}, sys.Within b → b.lower ⊆ sys.states :=
    fun h => Region.subset_trans h.ordered h.inside
  refine (orderly_leastFixpoint _ (hlower hc) (hlower hb)).bind ?_
  rintro _ rfl
  refine (orderly_leastFixpoint _ hc.inside hb.inside).bind ?_
  rintro _ rfl
  exact orderly_between (hb.reaches hc)

/-- The evaluation of a core formula is orderly, at every depth. -/
theorem orderly_evaluate (hv : sys.Valid) (hf : f.isCore = true) :
    (sys.evaluate f).Orderly sys sys.Within := by
  induction f with
  | tt =>
    refine .reuse rfl ((orderly_everyState sys).bind ?_)
    rintro _ rfl
    exact Within.exact (Region.subset_refl _)
  | ff => exact .reuse rfl (Within.exact fun s hs => absurd hs Std.ExtTreeSet.not_mem_empty)
  | atom name => exact .reuse rfl (orderly_evaluateAtom hv name)
  | neg f ih => exact .reuse hf ((ih hf).bind fun b hb => .ofExcept (ends_build hb.neg))
  | conj f g ihf ihg =>
    obtain ⟨hf', hg'⟩ := Bool.and_eq_true_iff.1 hf
    exact .reuse hf ((ihf hf').bind fun b hb => (ihg hg').bind fun c hc =>
      orderly_between (hb.conj hc))
  | ex f ih =>
    by_cases h : f = .tt
    · subst h
      exact .reuse hf (.counted _ (ends_build (.filter fun _ hs => hs)))
    · rw [evaluate_ex h]
      exact .reuse hf ((ih hf).bind fun b hb => .counted _ (ends_build hb.existsNext))
  | ax f ih =>
    exact .reuse hf ((ih hf).bind fun b hb => .counted _ (ends_build hb.forallNext))
  | eg f ih => exact .reuse hf ((ih hf).bind fun b hb => orderly_evaluateAlways hb)
  | eu f g ihf ihg =>
    obtain ⟨hf', hg'⟩ := Bool.and_eq_true_iff.1 hf
    exact .reuse hf ((ihf hf').bind fun b hb => (ihg hg').bind fun c hc =>
      orderly_evaluateUntil hb hc)
  | disj _ _ | imp _ _ | iff _ _ | ag _ | ef _ | af _ | au _ _ => cases hf

/-- A check evaluates core formulas only: the core form is taken from the store, where
there are no others, or made. -/
theorem orderly_check (hv : sys.Valid) (f : Formula) :
    (sys.check f).Orderly sys sys.Within := by
  have hcore : (coreForm f).Orderly sys (·.isCore = true) :=
    ⟨⟨f.isCore_toCore, f.isCore_toCore⟩, fun _ hcore => hcore⟩
  exact hcore.bind fun core h => orderly_evaluate hv h

end System

/-! ## Histories -/

namespace Checker

variable {sys : System} {c c' : Checker}

/-- The store and all calls are in order. -/
structure Orderly (sys : System) (c : Checker) : Prop where
  store : c.store.Orderly sys
  calls : ∀ call ∈ c.calls, call.rest.Orderly sys sys.Within

theorem Step.orderly (hv : sys.Valid) (hs : Step sys c c') (h : c.Orderly sys) :
    c'.Orderly sys := by
  cases hs with
  | call f =>
    refine ⟨h.store, fun call hcall => ?_⟩
    rcases List.mem_append.1 hcall with hcall | hcall
    · exact h.calls call hcall
    · obtain rfl := List.mem_singleton.1 hcall
      exact System.orderly_check hv f
  | access index call hcall =>
    obtain ⟨hstore, hrest⟩ := (h.calls call (List.mem_of_getElem? hcall)).step h.store
    refine ⟨hstore, fun other hother => ?_⟩
    rcases List.mem_or_eq_of_mem_set hother with hother | rfl
    · exact h.calls other hother
    · exact hrest
  | report e => exact ⟨⟨h.store.bounds, h.store.cores⟩, h.calls⟩

theorem Reached.orderly (hv : sys.Valid) (h : c.Reached sys) : c.Orderly sys := by
  induction h with
  | refl => exact ⟨Store.orderly_empty sys, by simp⟩
  | tail _ hs ih => exact hs.orderly hv ih

end Checker

/-! ## Checks -/

namespace System

variable {sys : System}

/-- **No check of the evaluator on its own work can fail.** On a valid system, whatever
was done on the checker before: the recorded bounds are in order; every access that the
calls under way will make is, and each of them ends if it goes on; and so does every new
check. It ends with bounds that are in order, unless the states do not fit into a set. -/
theorem check_never_fails_inside {c : Checker} (hv : sys.Valid) (hc : c.Reached sys) :
    (∀ (g : Formula) (b : Bounds), c.store.bounds[g]? = some b →
      g.isCore = true ∧ sys.Within b) ∧
    (∀ call ∈ c.calls, call.rest.Orderly sys sys.Within ∧
      sys.Ends sys.Within (call.rest.run c.store).1) ∧
    ∀ f, (sys.check f).Orderly sys sys.Within ∧
      sys.Ends sys.Within ((c.session sys).check f).1 := by
  have horderly := hc.orderly hv
  refine ⟨fun g b => horderly.store.bounds, fun call hcall => ?_, fun f => ?_⟩
  · have hrest := horderly.calls call hcall
    exact ⟨hrest, (hrest.run horderly.store).2⟩
  · have hcheck := orderly_check hv f
    exact ⟨hcheck, (hcheck.run horderly.store).2⟩

/-- A circle of states, and a call that has made its first access. -/
theorem check_never_fails_inside_ring : ∃ c : Checker,
    (ring 3).Valid ∧ c.Reached (ring 3) ∧ c.calls ≠ [] ∧
    (∀ call ∈ c.calls, call.rest.Orderly (ring 3) (ring 3).Within) ∧
    (ring 3).Ends (ring 3).Within ((c.session (ring 3)).check (.af (.eg (.atom "p")))).1 := by
  have hv : (ring 3).Valid := violation?_eq_none.1 (by decide +kernel)
  have hcall : Checker.Reached (ring 3) (({} : Checker).call (ring 3) (.eg (.atom "p"))) :=
    .single (.call {} _)
  have hc := hcall.tail (.access 0 ⟨.eg (.atom "p"), (ring 3).check (.eg (.atom "p"))⟩ rfl)
  obtain ⟨-, hcalls, hcheck⟩ := check_never_fails_inside hv hc
  exact ⟨_, hv, hc, by simp [Checker.access, Checker.call],
    fun call hmem => (hcalls call hmem).1, (hcheck _).2⟩

/-- In a system that is too large, the iteration of `EG` does not even start. -/
theorem vast_always_unanswered :
    vast.Valid ∧ vast.size < 18446744073709551615 ∧
    ((({} : Checker).session vast).check (.eg (.atom "p"))).1 = .error .capacity ∧
    ¬∃ b, ((({} : Checker).session vast).check (.eg (.atom "p"))).1 = .ok b := by
  have hfault := check_eg_eq_error vast_valid .refl (by decide) (.atom "p")
  refine ⟨vast_valid, by decide, hfault, ?_⟩
  rintro ⟨b, hb⟩
  rw [hfault] at hb
  cases hb

end System

end BranchingTime
