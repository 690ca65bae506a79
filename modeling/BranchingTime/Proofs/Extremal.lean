/-
Both loops of the checker end at an extreme. Here a loop is told apart from the functions
that compute its end: it builds the next region in place of the current one until that
changes nothing, or until a region does not fit (`Loops`), for any test of a state against a
region. Nothing says that such a loop ends. The shrinking one does, since it only ever drops
states. The growing one builds each region anew, from the base and the candidates that pass
against the last one, and could take states back. If the test is `Upward` it does not: from
nothing on, each region is inside the next, so all of them fit if the last one does.

For an upward test the shrinking loop ends at the largest set of candidates that all pass
against it (`Largest`), the growing one at the smallest set with the base and every
candidate that passes against it (`Smallest`), both after at most one round for each state
and one more. The tests of `EG` and of until are upward.
-/
import BranchingTime.Proofs.Orderly

namespace BranchingTime

/-- A loop builds the next region in each round, which has to fit, and stops at the first
region that this leaves as it is. From `start` it ends so after that many rounds. -/
inductive Loops (next : Region → Region) : Region → Nat → Except Fault Region → Prop where
  | stop {last : Region} (hfits : (next last).size < setLimit) (h : next last = last) :
    Loops next last 1 (.ok last)
  | full {start : Region} (h : setLimit ≤ (next start).size) :
    Loops next start 1 (.error .capacity)
  | step {start : Region} {outcome : Except Fault Region} {rounds : Nat}
      (hfits : (next start).size < setLimit) (h : next start ≠ start)
      (rest : Loops next (next start) rounds outcome) : Loops next start (rounds + 1) outcome

/-- A loop has one end at most. -/
theorem Loops.unique {next : Region → Region} {start : Region} {rounds rounds' : Nat}
    {outcome outcome' : Except Fault Region} (h : Loops next start rounds outcome)
    (h' : Loops next start rounds' outcome') : rounds = rounds' ∧ outcome = outcome' := by
  induction h generalizing rounds' outcome' with
  | stop hfits hstop =>
    cases h' with
    | stop => exact ⟨rfl, rfl⟩
    | full hfull => exact absurd hfits (Nat.not_lt.2 hfull)
    | step _ hne => exact absurd hstop hne
  | full hfull =>
    cases h' with
    | full => exact ⟨rfl, rfl⟩
    | stop hfits | step hfits => exact absurd hfits (Nat.not_lt.2 hfull)
  | step hfits hne _ ih =>
    cases h' with
    | stop _ hstop => exact absurd hstop hne
    | full hfull => exact absurd hfits (Nat.not_lt.2 hfull)
    | step _ _ rest =>
      obtain ⟨rfl, rfl⟩ := ih rest
      exact ⟨rfl, rfl⟩

/-- What passes against a region passes against every larger one. -/
def Upward (passes : Region → Nat → Bool) : Prop :=
  ∀ (a b : Region) (s : Nat), a ⊆ b → passes a s = true → passes b s = true

/-- An upward test as a rule. -/
def Upward.rule {passes : Region → Nat → Bool} (h : Upward passes) : Rule where
  supports := passes
  mono hab hs := h _ _ _ hab hs

theorem Rule.upward (rule : Rule) : Upward rule.supports := fun _ _ _ hab hs => rule.mono hab hs

/-- The largest set of candidates that all pass against it. -/
structure Largest (passes : Region → Nat → Bool) (candidates region : Region) : Prop where
  inside : region ⊆ candidates
  pass : ∀ s ∈ region, passes region s = true
  largest : ∀ other : Region, other ⊆ candidates → (∀ s ∈ other, passes other s = true) →
    other ⊆ region

/-- The smallest set that has the base and every candidate that passes against it. -/
structure Smallest (passes : Region → Nat → Bool) (base candidates region : Region) : Prop where
  above : base ⊆ region
  closed : ∀ s ∈ candidates, passes region s = true → s ∈ region
  smallest : ∀ other : Region, base ⊆ other →
    (∀ s ∈ candidates, passes other s = true → s ∈ other) → region ⊆ other

namespace Rule

variable {rule : Rule} {base candidates start current : Region}

/-! ## The iterations are the loops -/

theorem greatest_loops (rule : Rule) (candidates : Region) {start : Region}
    (hfits : start.size < setLimit) :
    Loops (rule.keep candidates) start (rule.greatest candidates start).rounds
      (.ok (rule.greatest candidates start).region) := by
  have hkeep : ∀ {start : Region}, start.size < setLimit →
      (rule.keep candidates start).size < setLimit := fun {start} hfits =>
    Nat.lt_of_le_of_lt (Region.size_le_of_subset (rule.keep_subset candidates start)) hfits
  fun_induction greatest rule candidates start with
  | case1 start next lookups h => exact .stop (hkeep hfits) h
  | case2 start next lookups h ih => exact .step (hkeep hfits) h (ih (hkeep hfits))

theorem subset_grow {h : current ⊆ rule.add base candidates current} :
    current ⊆ (rule.grow base candidates current h).region := by
  fun_induction grow rule base candidates current h with
  | case1 current h next he => exact Region.subset_refl _
  | case2 current h next he ih => exact Region.subset_trans h ih

theorem grow_loops {h : current ⊆ rule.add base candidates current}
    (hfits : (rule.grow base candidates current h).region.size < setLimit) :
    Loops (rule.add base candidates) current (rule.grow base candidates current h).rounds
      (.ok (rule.grow base candidates current h).region) := by
  fun_induction grow rule base candidates current h with
  | case1 current h next he =>
    have hnext : next.size < setLimit := by
      rw [he]
      exact hfits
    exact .stop hnext he
  | case2 current h next he ih =>
    -- the next region is inside the last one
    have hnext : next.size < setLimit :=
      Nat.lt_of_le_of_lt (Region.size_le_of_subset subset_grow) hfits
    exact .step hnext he (ih hfits)

/-- If the last region does not fit, the loop breaks off in that round or before. -/
theorem grow_loops_error {h : current ⊆ rule.add base candidates current}
    (hfull : setLimit ≤ (rule.grow base candidates current h).region.size) :
    ∃ rounds ≤ (rule.grow base candidates current h).rounds,
      Loops (rule.add base candidates) current rounds (.error .capacity) := by
  fun_induction grow rule base candidates current h with
  | case1 current h next he =>
    have hnext : setLimit ≤ next.size := by
      rw [he]
      exact hfull
    exact ⟨1, Nat.le_refl 1, .full hnext⟩
  | case2 current h next he ih =>
    by_cases hnext : next.size < setLimit
    · obtain ⟨rounds, hle, hrest⟩ := ih hfull
      exact ⟨rounds + 1, Nat.succ_le_succ hle, .step hnext he hrest⟩
    · exact ⟨1, Nat.succ_le_succ (Nat.zero_le _), .full (Nat.not_lt.1 hnext)⟩

/-! ## Their ends are extreme -/

theorem largest_greatest (rule : Rule) (hstart : candidates ⊆ start) :
    Largest rule.supports candidates (rule.greatest candidates start).region where
  inside _ hs := (mem_greatest hs).1
  pass _ hs := (mem_greatest hs).2
  largest other hinside hpass := by
    intro s hs
    refine mem_greatest_of_forall (fun t ht => hstart t (hinside t ht)) hinside ?_ hs
    -- what passes against `other` passes against all that it is inside of
    exact fun region t hregion ht => rule.mono hregion (hpass t ht)

theorem smallest_least (rule : Rule) (base candidates : Region) :
    Smallest rule.supports base candidates (rule.least base candidates).region where
  above _ hs := mem_least.2 (.inl hs)
  closed _ hc hs := mem_least.2 (.inr ⟨hc, hs⟩)
  smallest other hbase hclosed := by
    refine forall_mem_least hbase fun region hregion t ht hs => ?_
    exact hclosed t ht (rule.mono hregion hs)

end Rule

namespace System

variable {sys : System} {base candidates : Region} {passes : Region → Nat → Bool}

/-! ## The loops on a system -/

theorem greatestFixpoint_run (rule : Rule) (h : sys.size < setLimit) (store : Store) :
    (sys.greatestFixpoint rule candidates).run store =
      (.ok (rule.greatest candidates sys.states).region,
        { store with
          lookups := store.lookups + .ofNat (rule.greatest candidates sys.states).lookups
          log := store.log.push
            (.greatestReached (rule.greatest candidates sys.states).rounds) }) := by
  rw [greatestFixpoint, everyState_okIf.ok h]
  rfl

theorem greatestFixpoint_eq_fail (rule : Rule) (h : setLimit ≤ sys.size) :
    sys.greatestFixpoint rule candidates = .fail .capacity := by
  rw [greatestFixpoint, everyState_okIf.error (Nat.not_lt.2 h)]
  rfl

theorem leastFixpoint_run (rule : Rule) (h : (rule.least base candidates).region.size < setLimit)
    (store : Store) :
    (rule.leastFixpoint base candidates).run store =
      (.ok (rule.least base candidates).region,
        { store with
          lookups := store.lookups + .ofNat (rule.least base candidates).lookups
          log := store.log.push (.leastReached (rule.least base candidates).rounds) }) := by
  simp only [Rule.leastFixpoint, (held_okIf _).ok h]
  rfl

theorem leastFixpoint_eq_fail (rule : Rule)
    (h : setLimit ≤ (rule.least base candidates).region.size) :
    rule.leastFixpoint base candidates = .fail .capacity := by
  simp only [Rule.leastFixpoint, (held_okIf _).error (Nat.not_lt.2 h)]
  rfl

/-- From all states the shrinking loop ends at `region`, after at most one round for each
state and one more, and that is the largest set of candidates that all pass. -/
structure ShrinksTo (sys : System) (passes : Region → Nat → Bool) (candidates : Region)
    (rounds : Nat) (region : Region) : Prop where
  loops : Loops (fun current => (current ∩ candidates).filter (passes current)) sys.states
    rounds (.ok region)
  rounds_le : rounds ≤ sys.size + 1
  largest : Largest passes candidates region

/-- From nothing the growing loop has this outcome, within the same number of rounds. -/
structure GrowsTo (sys : System) (passes : Region → Nat → Bool) (base candidates : Region)
    (rounds : Nat) (outcome : Except Fault Region) : Prop where
  loops : Loops (fun current => base ∪ candidates.filter (passes current)) ∅ rounds outcome
  rounds_le : rounds ≤ sys.size + 1

theorem shrinksTo_greatest (rule : Rule) (hfits : sys.size < setLimit)
    (hcandidates : candidates ⊆ sys.states) :
    sys.ShrinksTo rule.supports candidates (rule.greatest candidates sys.states).rounds
      (rule.greatest candidates sys.states).region where
  loops := rule.greatest_loops candidates (sys.size_states.symm ▸ hfits)
  rounds_le := rounds_greatest_le_size rule candidates
  largest := rule.largest_greatest hcandidates

theorem growsTo_least (rule : Rule) (hbase : base ⊆ sys.states)
    (hcandidates : candidates ⊆ sys.states)
    (hfits : (rule.least base candidates).region.size < setLimit) :
    sys.GrowsTo rule.supports base candidates (rule.least base candidates).rounds
      (.ok (rule.least base candidates).region) where
  loops := Rule.grow_loops hfits
  rounds_le := rounds_least_le_size rule hbase hcandidates

theorem exists_growsTo_error (rule : Rule) (hbase : base ⊆ sys.states)
    (hcandidates : candidates ⊆ sys.states)
    (hfull : setLimit ≤ (rule.least base candidates).region.size) :
    ∃ rounds, sys.GrowsTo rule.supports base candidates rounds (.error .capacity) := by
  obtain ⟨rounds, hle, hloops⟩ := Rule.grow_loops_error hfull
  exact ⟨rounds, hloops, Nat.le_trans hle (rounds_least_le_size rule hbase hcandidates)⟩

/-- **Both loops are bounded and end at an extreme, or break off**, whatever the upward test
and the candidates. The shrinking one comes to the largest set if the states fit into a set,
and breaks off before its first round if not. The growing one comes to the smallest set if
that fits, and breaks off on the way to it if not. The programs of the checker end as the
loops do, and report their rounds. The tests of `EG` and of until, for what is sure and for
what may be, are upward. -/
theorem fixpoints_bounded_and_extreme (h : Upward passes) (hbase : base ⊆ sys.states)
    (hcandidates : candidates ⊆ sys.states) :
    ((sys.size < setLimit → ∃ rounds region, sys.ShrinksTo passes candidates rounds region ∧
        ∀ store, ∃ lookups, (sys.greatestFixpoint h.rule candidates).run store =
          (.ok region, { store with lookups, log := store.log.push (.greatestReached rounds) })) ∧
      (setLimit ≤ sys.size → ∀ store,
        (sys.greatestFixpoint h.rule candidates).run store = (.error .capacity, store))) ∧
    (∃ region, Smallest passes base candidates region ∧
      (region.size < setLimit → ∃ rounds, sys.GrowsTo passes base candidates rounds (.ok region) ∧
        ∀ store, ∃ lookups, (h.rule.leastFixpoint base candidates).run store =
          (.ok region, { store with lookups, log := store.log.push (.leastReached rounds) })) ∧
      (setLimit ≤ region.size →
        (∃ rounds, sys.GrowsTo passes base candidates rounds (.error .capacity)) ∧
        ∀ store, (h.rule.leastFixpoint base candidates).run store = (.error .capacity, store))) ∧
    (∃ (sure : Upward fun region s =>
          if sys.hasSuccessor s then sys.leadsInto region s else !sys.isOpen s)
        (maybe : Upward fun region s =>
          if sys.hasSuccessor s then sys.leadsInto region s || sys.isOpen s else true),
      ∀ b, sys.evaluateAlways b = (do
        let lower ← sys.greatestFixpoint sure.rule b.lower
        let upper ← sys.greatestFixpoint maybe.rule b.upper
        .ofExcept (Bounds.between lower upper))) ∧
    ∃ (sure : Upward fun region s => sys.leadsInto region s)
        (maybe : Upward fun region s => sys.isOpen s || sys.leadsInto region s),
      ∀ b c, sys.evaluateUntil b c = (do
        let lower ← sure.rule.leastFixpoint c.lower b.lower
        let upper ← maybe.rule.leastFixpoint c.upper b.upper
        .ofExcept (Bounds.between lower upper)) := by
  refine ⟨⟨fun hfits => ?_, fun hfull store => ?_⟩,
    ⟨_, h.rule.smallest_least base candidates, fun hfits => ?_, fun hfull => ⟨?_, fun store => ?_⟩⟩,
    ?_, ?_⟩
  · exact ⟨_, _, shrinksTo_greatest h.rule hfits hcandidates,
      fun store => ⟨_, greatestFixpoint_run h.rule hfits store⟩⟩
  · rw [greatestFixpoint_eq_fail h.rule hfull]
    rfl
  · exact ⟨_, growsTo_least h.rule hbase hcandidates hfits,
      fun store => ⟨_, leastFixpoint_run h.rule hfits store⟩⟩
  · exact exists_growsTo_error h.rule hbase hcandidates hfull
  · rw [leastFixpoint_eq_fail h.rule hfull]
    rfl
  · exact ⟨sys.surelyGoesOn.upward, sys.maybeGoesOn.upward, fun _ => rfl⟩
  · exact ⟨sys.surelyEnters.upward, sys.maybeEnters.upward, fun _ _ => rfl⟩

/-- On a line of three states both loops take four rounds: the bound is sharp. -/
theorem fixpoints_bounded_and_extreme_chain :
    Upward (chain 3).leadsInto ∧ {2} ⊆ (chain 3).states ∧ {0, 1} ⊆ (chain 3).states ∧
    (∃ region, (chain 3).ShrinksTo (chain 3).leadsInto {0, 1} ((chain 3).size + 1) region ∧
      (((chain 3).greatestFixpoint (chain 3).surelyEnters {0, 1}).run {}).1 = .ok region) ∧
    ∃ region, Smallest (chain 3).leadsInto {2} {0, 1} region ∧
      (chain 3).GrowsTo (chain 3).leadsInto {2} {0, 1} ((chain 3).size + 1) (.ok region) ∧
      (((chain 3).surelyEnters.leastFixpoint {2} {0, 1}).run {}).1 = .ok region := by
  have hupward : Upward (chain 3).leadsInto := (chain 3).surelyEnters.upward
  have hbase : {2} ⊆ (chain 3).states := by decide +kernel
  have hcandidates : {0, 1} ⊆ (chain 3).states := by decide +kernel
  have hfits : (chain 3).size < setLimit := by decide +kernel
  -- {0, 1, 2}, {0, 1}, {0}, {}
  have hshrink : ∃ last, Loops
      (fun current => (current ∩ {0, 1}).filter ((chain 3).leadsInto current)) (chain 3).states
      ((chain 3).size + 1) (.ok last) :=
    ⟨_, .step (by decide +kernel) (by decide +kernel) <|
      .step (by decide +kernel) (by decide +kernel) <|
      .step (by decide +kernel) (by decide +kernel) <|
      .stop (by decide +kernel) (by decide +kernel)⟩
  -- {}, {2}, {1, 2}, {0, 1, 2}
  have hgrow : ∃ last, Loops
      (fun current => {2} ∪ Std.ExtTreeSet.filter ((chain 3).leadsInto current) {0, 1}) ∅
      ((chain 3).size + 1) (.ok last) :=
    ⟨_, .step (by decide +kernel) (by decide +kernel) <|
      .step (by decide +kernel) (by decide +kernel) <|
      .step (by decide +kernel) (by decide +kernel) <|
      .stop (by decide +kernel) (by decide +kernel)⟩
  obtain ⟨⟨hgreatest, -⟩, ⟨region', hsmallest, hleast, -⟩, -⟩ :=
    fixpoints_bounded_and_extreme hupward hbase hcandidates
  refine ⟨hupward, hbase, hcandidates, ?_, region', hsmallest, ?_⟩
  · obtain ⟨rounds, region, hshrinks, hrun⟩ := hgreatest hfits
    obtain ⟨last, hshrink⟩ := hshrink
    obtain ⟨lookups, hrun⟩ := hrun {}
    obtain ⟨rfl, -⟩ := hshrinks.loops.unique hshrink
    exact ⟨region, hshrinks, congrArg Prod.fst hrun⟩
  · have hinside : region' ⊆ (chain 3).states :=
      hsmallest.smallest _ hbase fun s hs _ => hcandidates s hs
    obtain ⟨rounds, hgrows, hrun⟩ :=
      hleast (Nat.lt_of_le_of_lt (size_le_of_subset_states hinside) hfits)
    obtain ⟨last, hgrow⟩ := hgrow
    obtain ⟨lookups, hrun⟩ := hrun {}
    obtain ⟨rfl, -⟩ := hgrows.loops.unique hgrow
    exact ⟨hgrows, congrArg Prod.fst hrun⟩

/-- In a system that is too large, the states of `p` support one another, and yet the loop
does not return them: it does not even start. -/
theorem vast_largest_not_returned :
    vast.Valid ∧ vast.size < 18446744073709551615 ∧ vast.bearing "p" ⊆ vast.states ∧
    Upward vast.surelyGoesOn.supports ∧
    Largest vast.surelyGoesOn.supports (vast.bearing "p") (vast.bearing "p") ∧
    ∀ store, ¬∃ region,
      ((vast.greatestFixpoint vast.surelyGoesOn (vast.bearing "p")).run store).1 = .ok region := by
  have hpass : ∀ region s, vast.surelyGoesOn.supports region s = true := by
    intro region s
    have hunknown : vast.successors s = none := rfl
    refine surelyGoesOn_iff.2 (.inr ⟨?_, not_mem_frontier_vast s⟩)
    rintro t ⟨targets, htargets, -⟩
    rw [hunknown] at htargets
    cases htargets
  refine ⟨vast_valid, by decide, bearing_subset vast_valid "p", vast.surelyGoesOn.upward, ?_, ?_⟩
  · exact ⟨Region.subset_refl _, fun s _ => hpass _ s, fun other hother _ => hother⟩
  · rintro store ⟨region, hregion⟩
    rw [greatestFixpoint_eq_fail _ (by decide)] at hregion
    cases hregion

end System

end BranchingTime
