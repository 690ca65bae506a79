/-
What the evaluator computes, with the store taken out of the picture. `uncached`
is the outcome of a program that finds nothing recorded; `bounds` gives the
bounds of every core formula by set operations alone, without faults. The two
agree (`evaluate_okIf`): on a valid system the evaluator breaks off for one reason
only, that a set which it builds does not fit, and `Affords` says when all of them
do. In particular a lower bound is always inside its upper bound, and both are
inside the system (`bounds_within`), so the check of `Bounds.between` never fails,
and everything fits if the set of all states does (`affords_of_fits`).

Everything that is proved of the meaning of formulas is proved of `bounds`.
-/
import BranchingTime.Checking.Evaluate
import BranchingTime.Proofs.Fixpoint

namespace BranchingTime

namespace Access

variable {α β : Type}

/-- The outcome of a program that never finds anything in the store. -/
def uncached : Access α → Except Fault α
  | done value => .ok value
  | fail fault => .error fault
  | fetch _ next => (next none).uncached
  | record _ _ next => next.uncached
  | fetchCore _ next => (next none).uncached
  | recordCore _ _ next => next.uncached
  | count _ next => next.uncached
  | report _ next => next.uncached

@[simp]
theorem uncached_bind (p : Access α) (k : α → Access β) :
    (p >>= k).uncached = p.uncached >>= fun value => (k value).uncached := by
  rw [bind_eq]
  induction p with
  | done value => rfl
  | fail fault => rfl
  | fetch f next ih | fetchCore f next ih => exact ih none
  | record f b next ih | recordCore f core next ih | count lookups next ih | report e next ih =>
    exact ih

@[simp]
theorem uncached_ofExcept (x : Except Fault α) : (ofExcept x).uncached = x := by
  cases x <;> rfl

@[simp]
theorem uncached_counted (lookups : Nat) (x : Except Fault α) :
    (counted lookups x).uncached = x := by
  cases x <;> rfl

@[simp]
theorem uncached_leastFixpoint (rule : Rule) (base candidates : Region) :
    (rule.leastFixpoint base candidates).uncached = (rule.least base candidates).region.held := by
  rw [Rule.leastFixpoint, uncached_bind, uncached_ofExcept]
  exact bind_pure _

/-- To record a result does not change it. -/
@[simp]
theorem uncached_reuse (f : Formula) (p : Access Bounds) : (reuse f p).uncached = p.uncached := by
  simp only [reuse, uncached, uncached_bind]
  cases p.uncached <;> rfl

end Access

namespace Bounds

/-- The larger one of the two sets fits. -/
def Fits (b : Bounds) : Prop := b.upper.size < setLimit

instance (b : Bounds) : Decidable b.Fits := inferInstanceAs (Decidable (_ < _))

end Bounds

namespace System

variable {sys : System} {f g : Formula} {b : Bounds} {s : Nat} {α β : Type}

/-! ## Bounds as sets -/

/-- The states that bear the proposition of this name. -/
def bearing (sys : System) (name : String) : Region :=
  match sys.index? name with
  | some index => sys.labelled index
  | none => ∅

/-- The bounds of a core formula. No other formula has any. -/
def bounds (sys : System) : Formula → Bounds
  | .tt => .exact sys.states
  | .ff => .exact ∅
  | .atom name => .exact (sys.bearing name)
  | .neg f => ⟨sys.outside (sys.bounds f).upper, sys.outside (sys.bounds f).lower⟩
  | .conj f g =>
    ⟨(sys.bounds f).lower ∩ (sys.bounds g).lower, (sys.bounds f).upper ∩ (sys.bounds g).upper⟩
  | .ex .tt => .exact (sys.states.filter fun s => sys.hasSuccessor s || sys.isOpen s)
  | .ex f =>
    ⟨sys.states.filter (sys.leadsInto (sys.bounds f).lower),
      sys.states.filter fun s => sys.leadsInto (sys.bounds f).upper s || sys.isOpen s⟩
  | .ax f =>
    ⟨sys.states.filter fun s => !sys.isOpen s && sys.staysIn (sys.bounds f).lower s,
      sys.states.filter fun s => sys.isOpen s || sys.staysIn (sys.bounds f).upper s⟩
  | .eg f =>
    ⟨(sys.surelyGoesOn.greatest (sys.bounds f).lower sys.states).region,
      (sys.maybeGoesOn.greatest (sys.bounds f).upper sys.states).region⟩
  | .eu f g =>
    ⟨(sys.surelyEnters.least (sys.bounds g).lower (sys.bounds f).lower).region,
      (sys.maybeEnters.least (sys.bounds g).upper (sys.bounds f).upper).region⟩
  | .disj _ _ | .imp _ _ | .iff _ _ | .ag _ | .ef _ | .af _ | .au _ _ => .exact ∅

theorem bounds_ex (h : f ≠ .tt) : sys.bounds (.ex f) =
    ⟨sys.states.filter (sys.leadsInto (sys.bounds f).lower),
      sys.states.filter fun s => sys.leadsInto (sys.bounds f).upper s || sys.isOpen s⟩ := by
  cases f <;> first | rfl | exact absurd rfl h

/-! ## Membership -/

theorem mem_states : s ∈ sys.states ↔ s < sys.size := Region.mem_upTo

theorem mem_outside {region : Region} :
    s ∈ sys.outside region ↔ s < sys.size ∧ s ∉ region := by
  rw [outside, Region.mem_filter_iff, mem_states, Bool.not_eq_true', ← Bool.not_eq_true,
    Std.ExtTreeSet.contains_iff_mem]

/-- `t` is a known successor of `s`. -/
def Leads (sys : System) (s t : Nat) : Prop :=
  ∃ targets, sys.successors s = some targets ∧ t ∈ targets

theorem hasSuccessor_iff : sys.hasSuccessor s = true ↔ ∃ t, sys.Leads s t := by
  unfold hasSuccessor Leads
  cases sys.successors s with
  | none => simp
  | some targets =>
    simp only [Option.some.injEq, exists_eq_left', Bool.not_eq_true',
      Std.ExtTreeSet.isEmpty_eq_false_iff, Std.ExtTreeSet.eq_empty_iff_forall_not_mem,
      Classical.not_forall, Classical.not_not]

theorem leadsInto_iff {region : Region} :
    sys.leadsInto region s = true ↔ ∃ t, sys.Leads s t ∧ t ∈ region := by
  unfold leadsInto Leads
  cases sys.successors s with
  | none => simp
  | some targets => simp [Region.meets_iff]

theorem staysIn_iff {region : Region} :
    sys.staysIn region s = true ↔ ∀ t, sys.Leads s t → t ∈ region := by
  unfold staysIn Leads
  cases sys.successors s with
  | none => simp
  | some targets => simp [Region.isWithin_iff, Region.subset_def]

theorem isOpen_iff : sys.isOpen s = true ↔ s ∈ sys.frontier := Std.ExtTreeSet.contains_iff_mem

theorem surelyGoesOn_iff {region : Region} : sys.surelyGoesOn.supports region s = true ↔
    (∃ t, sys.Leads s t ∧ t ∈ region) ∨ (∀ t, ¬sys.Leads s t) ∧ s ∉ sys.frontier := by
  simp only [surelyGoesOn, ← isOpen_iff, ← not_exists]
  by_cases h : sys.hasSuccessor s = true
  · simp [h, leadsInto_iff, hasSuccessor_iff.1 h]
  · have hnone : ¬∃ t, sys.Leads s t := fun he => h (hasSuccessor_iff.2 he)
    have hinto : ¬∃ t, sys.Leads s t ∧ t ∈ region := fun ⟨t, ht, _⟩ => hnone ⟨t, ht⟩
    simp [h, hnone, hinto]

theorem maybeGoesOn_iff {region : Region} : sys.maybeGoesOn.supports region s = true ↔
    (∃ t, sys.Leads s t ∧ t ∈ region) ∨ (∀ t, ¬sys.Leads s t) ∨ s ∈ sys.frontier := by
  simp only [maybeGoesOn, ← isOpen_iff, ← not_exists]
  by_cases h : sys.hasSuccessor s = true
  · simp [h, leadsInto_iff, hasSuccessor_iff.1 h]
  · have hnone : ¬∃ t, sys.Leads s t := fun he => h (hasSuccessor_iff.2 he)
    simp [h, hnone]

theorem surelyEnters_iff {region : Region} :
    sys.surelyEnters.supports region s = true ↔ ∃ t, sys.Leads s t ∧ t ∈ region :=
  leadsInto_iff

theorem maybeEnters_iff {region : Region} : sys.maybeEnters.supports region s = true ↔
    s ∈ sys.frontier ∨ ∃ t, sys.Leads s t ∧ t ∈ region := by
  simp only [maybeEnters, Bool.or_eq_true, isOpen_iff, leadsInto_iff]

theorem Leads.target_lt {t : Nat} (hv : sys.Valid) (h : sys.Leads s t) : t < sys.size := by
  obtain ⟨targets, ht, hmem⟩ := h
  exact hv.targets ht hmem

/-! ## The states of the bounds, operator by operator -/

theorem mem_lower_neg : s ∈ (sys.bounds (.neg f)).lower ↔
    s < sys.size ∧ s ∉ (sys.bounds f).upper :=
  mem_outside

theorem mem_upper_neg : s ∈ (sys.bounds (.neg f)).upper ↔
    s < sys.size ∧ s ∉ (sys.bounds f).lower :=
  mem_outside

theorem mem_lower_conj : s ∈ (sys.bounds (.conj f g)).lower ↔
    s ∈ (sys.bounds f).lower ∧ s ∈ (sys.bounds g).lower :=
  Std.ExtTreeSet.mem_inter_iff

theorem mem_upper_conj : s ∈ (sys.bounds (.conj f g)).upper ↔
    s ∈ (sys.bounds f).upper ∧ s ∈ (sys.bounds g).upper :=
  Std.ExtTreeSet.mem_inter_iff

theorem mem_bounds_ex_true : s ∈ sys.states.filter (fun s => sys.hasSuccessor s || sys.isOpen s) ↔
    s < sys.size ∧ ((∃ t, sys.Leads s t) ∨ s ∈ sys.frontier) := by
  rw [Region.mem_filter_iff, mem_states, Bool.or_eq_true, hasSuccessor_iff, isOpen_iff]

theorem mem_lower_ex (h : f ≠ .tt) : s ∈ (sys.bounds (.ex f)).lower ↔
    s < sys.size ∧ ∃ t, sys.Leads s t ∧ t ∈ (sys.bounds f).lower := by
  rw [bounds_ex h, Region.mem_filter_iff, mem_states, leadsInto_iff]

theorem mem_upper_ex (h : f ≠ .tt) : s ∈ (sys.bounds (.ex f)).upper ↔
    s < sys.size ∧ ((∃ t, sys.Leads s t ∧ t ∈ (sys.bounds f).upper) ∨ s ∈ sys.frontier) := by
  rw [bounds_ex h, Region.mem_filter_iff, mem_states, Bool.or_eq_true, leadsInto_iff, isOpen_iff]

theorem mem_lower_ax : s ∈ (sys.bounds (.ax f)).lower ↔
    s < sys.size ∧ s ∉ sys.frontier ∧ ∀ t, sys.Leads s t → t ∈ (sys.bounds f).lower := by
  rw [bounds, Region.mem_filter_iff, mem_states, Bool.and_eq_true, staysIn_iff, ← isOpen_iff]
  simp

theorem mem_upper_ax : s ∈ (sys.bounds (.ax f)).upper ↔
    s < sys.size ∧ (s ∈ sys.frontier ∨ ∀ t, sys.Leads s t → t ∈ (sys.bounds f).upper) := by
  rw [bounds, Region.mem_filter_iff, mem_states, Bool.or_eq_true, staysIn_iff, isOpen_iff]

/-! ## Bounds are inside one another and inside the system -/

/-- The lower bound is inside the upper one, and that inside the system. -/
structure Within (sys : System) (b : Bounds) : Prop where
  ordered : b.lower ⊆ b.upper
  inside : b.upper ⊆ sys.states

theorem Within.exact {region : Region} (h : region ⊆ sys.states) : sys.Within (.exact region) :=
  ⟨Region.subset_refl region, h⟩

theorem surelyGoesOn_maybe (region : Region) (t : Nat)
    (h : sys.surelyGoesOn.supports region t = true) :
    sys.maybeGoesOn.supports region t = true := by
  rw [surelyGoesOn_iff] at h
  rw [maybeGoesOn_iff]
  exact h.imp_right fun h => .inl h.1

theorem surelyEnters_maybe (region : Region) (t : Nat)
    (h : sys.surelyEnters.supports region t = true) :
    sys.maybeEnters.supports region t = true :=
  maybeEnters_iff.2 (.inr (surelyEnters_iff.1 h))

theorem bearing_subset (hv : sys.Valid) (name : String) : sys.bearing name ⊆ sys.states := by
  intro s hs
  unfold bearing at hs
  split at hs
  next index hindex =>
    rw [labelled, Std.ExtTreeMap.getD_eq_getD_getElem?] at hs
    cases hl : sys.labels[index]? with
    | none => simp [hl] at hs
    | some states =>
      rw [hl] at hs
      exact mem_states.2 (hv.labelled hl hs)
  next => simp at hs

/-- Negation turns the bounds round. -/
theorem Within.neg (h : sys.Within b) :
    sys.Within ⟨sys.outside b.upper, sys.outside b.lower⟩ where
  ordered s hs := by
    obtain ⟨hlt, hnot⟩ := mem_outside.1 hs
    exact mem_outside.2 ⟨hlt, fun hl => hnot (h.ordered s hl)⟩
  inside s hs := mem_states.2 (mem_outside.1 hs).1

theorem Within.conj {c : Bounds} (hb : sys.Within b) (hc : sys.Within c) :
    sys.Within ⟨b.lower ∩ c.lower, b.upper ∩ c.upper⟩ where
  ordered s hs := by
    obtain ⟨hbs, hcs⟩ := Std.ExtTreeSet.mem_inter_iff.1 hs
    exact Std.ExtTreeSet.mem_inter_iff.2 ⟨hb.ordered s hbs, hc.ordered s hcs⟩
  inside s hs := hb.inside s (Std.ExtTreeSet.mem_inter_iff.1 hs).1

/-- The states that pass a test, and those that pass a weaker one. -/
theorem Within.filter {sure possible : Nat → Bool}
    (h : ∀ s, sure s = true → possible s = true) :
    sys.Within ⟨sys.states.filter sure, sys.states.filter possible⟩ where
  ordered s hs := by
    obtain ⟨hstate, hsure⟩ := Region.mem_filter_iff.1 hs
    exact Region.mem_filter_iff.2 ⟨hstate, h s hsure⟩
  inside s hs := (Region.mem_filter_iff.1 hs).1

theorem Within.existsNext (h : sys.Within b) :
    sys.Within ⟨sys.states.filter (sys.leadsInto b.lower),
      sys.states.filter fun s => sys.leadsInto b.upper s || sys.isOpen s⟩ := by
  refine .filter fun s hs => ?_
  rw [Bool.or_eq_true]
  exact .inl (sys.leadsInto_mono h.ordered hs)

theorem Within.forallNext (h : sys.Within b) :
    sys.Within ⟨sys.states.filter fun s => !sys.isOpen s && sys.staysIn b.lower s,
      sys.states.filter fun s => sys.isOpen s || sys.staysIn b.upper s⟩ := by
  refine .filter fun s hs => ?_
  rw [Bool.and_eq_true, staysIn_iff] at hs
  rw [Bool.or_eq_true, staysIn_iff]
  exact .inr fun t ht => h.ordered t (hs.2 t ht)

theorem Within.always (h : sys.Within b) :
    sys.Within ⟨(sys.surelyGoesOn.greatest b.lower sys.states).region,
      (sys.maybeGoesOn.greatest b.upper sys.states).region⟩ where
  ordered := Rule.greatest_subset_greatest surelyGoesOn_maybe h.ordered
  inside := Rule.greatest_subset _ _ _

theorem Within.reaches {c : Bounds} (hb : sys.Within b) (hc : sys.Within c) :
    sys.Within ⟨(sys.surelyEnters.least c.lower b.lower).region,
      (sys.maybeEnters.least c.upper b.upper).region⟩ where
  ordered := Rule.least_subset_least surelyEnters_maybe hc.ordered hb.ordered
  inside := Rule.forall_mem_least hc.inside fun _ _ t ht _ => hb.inside t ht

/-- The bounds of a formula are in order. -/
theorem bounds_within (hv : sys.Valid) (f : Formula) : sys.Within (sys.bounds f) := by
  induction f with
  | tt => exact .exact (Region.subset_refl _)
  | atom name => exact .exact (bearing_subset hv name)
  | neg f ih => exact ih.neg
  | conj f g ihf ihg => exact ihf.conj ihg
  | ex f ih =>
    by_cases h : f = .tt
    · subst h
      exact .filter fun _ hs => hs
    · rw [bounds_ex h]
      exact ih.existsNext
  | ax f ih => exact ih.forallNext
  | eg f ih => exact ih.always
  | eu f g ihf ihg => exact ihf.reaches ihg
  | ff | disj _ _ | imp _ _ | iff _ _ | ag _ | ef _ | af _ | au _ _ =>
    exact .exact fun s hs => absurd hs Std.ExtTreeSet.not_mem_empty

theorem lt_of_mem_upper (hv : sys.Valid) (h : s ∈ (sys.bounds f).upper) : s < sys.size :=
  mem_states.1 ((bounds_within hv f).inside s h)

theorem lt_of_mem_lower (hv : sys.Valid) (h : s ∈ (sys.bounds f).lower) : s < sys.size :=
  lt_of_mem_upper hv ((bounds_within hv f).ordered s h)

/-! ## What the iterations say of a single state -/

theorem mem_lower_eu : s ∈ (sys.bounds (.eu f g)).lower ↔ s ∈ (sys.bounds g).lower ∨
    s ∈ (sys.bounds f).lower ∧ ∃ t, sys.Leads s t ∧ t ∈ (sys.bounds (.eu f g)).lower := by
  rw [bounds, Rule.mem_least, surelyEnters_iff]

theorem mem_upper_eu : s ∈ (sys.bounds (.eu f g)).upper ↔ s ∈ (sys.bounds g).upper ∨
    s ∈ (sys.bounds f).upper ∧
      (s ∈ sys.frontier ∨ ∃ t, sys.Leads s t ∧ t ∈ (sys.bounds (.eu f g)).upper) := by
  rw [bounds, Rule.mem_least, maybeEnters_iff]

theorem mem_lower_eg (hv : sys.Valid) : s ∈ (sys.bounds (.eg f)).lower ↔
    s ∈ (sys.bounds f).lower ∧ ((∃ t, sys.Leads s t ∧ t ∈ (sys.bounds (.eg f)).lower) ∨
      (∀ t, ¬sys.Leads s t) ∧ s ∉ sys.frontier) := by
  have hstates : (sys.bounds f).lower ⊆ sys.states :=
    fun t ht => mem_states.2 (lt_of_mem_lower hv ht)
  rw [bounds, Rule.mem_greatest_iff hstates, surelyGoesOn_iff]

theorem mem_upper_eg (hv : sys.Valid) : s ∈ (sys.bounds (.eg f)).upper ↔
    s ∈ (sys.bounds f).upper ∧ ((∃ t, sys.Leads s t ∧ t ∈ (sys.bounds (.eg f)).upper) ∨
      (∀ t, ¬sys.Leads s t) ∨ s ∈ sys.frontier) := by
  rw [bounds, Rule.mem_greatest_iff (bounds_within hv f).inside, maybeGoesOn_iff]

/-! ## The sets that are built -/

/-- The evaluation of a core formula does not break off: all sets fit that it builds for
the formula and for its operands. The states of an atom are not built anew, nor are parts
of sets that are there. -/
def Affords (sys : System) : Formula → Prop
  | .tt => sys.size < setLimit
  | .ff | .atom _ => True
  | .neg f => sys.Affords f ∧ (sys.bounds (.neg f)).Fits
  | .conj f g => sys.Affords f ∧ sys.Affords g
  -- after `EX`, `true` is not evaluated
  | .ex f => (f = .tt ∨ sys.Affords f) ∧ (sys.bounds (.ex f)).Fits
  | .ax f => sys.Affords f ∧ (sys.bounds (.ax f)).Fits
  | .eg f => sys.Affords f ∧ sys.size < setLimit
  | .eu f g => (sys.Affords f ∧ sys.Affords g) ∧ (sys.bounds (.eu f g)).Fits
  | .disj _ _ | .imp _ _ | .iff _ _ | .ag _ | .ef _ | .af _ | .au _ _ => True

instance Affords.decidable (sys : System) : (f : Formula) → Decidable (sys.Affords f)
  | .tt => inferInstanceAs (Decidable (_ < _))
  | .neg f | .ax f | .eg f =>
    have := decidable sys f
    inferInstanceAs (Decidable (_ ∧ _))
  | .ex f =>
    have := decidable sys f
    inferInstanceAs (Decidable ((_ ∨ _) ∧ _))
  | .conj f g =>
    have := decidable sys f
    have := decidable sys g
    inferInstanceAs (Decidable (_ ∧ _))
  | .eu f g =>
    have := decidable sys f
    have := decidable sys g
    inferInstanceAs (Decidable ((_ ∧ _) ∧ _))
  | .ff | .atom _ | .disj _ _ | .imp _ _ | .iff _ _ | .ag _ | .ef _ | .af _ | .au _ _ =>
    inferInstanceAs (Decidable True)

theorem size_states (sys : System) : sys.states.size = sys.size := Region.size_upTo sys.size

theorem size_le_of_subset_states {region : Region} (h : region ⊆ sys.states) :
    region.size ≤ sys.size :=
  sys.size_states ▸ Region.size_le_of_subset h

/-- A state is outside the region or in it. -/
theorem size_le_outside_add (sys : System) (region : Region) :
    sys.size ≤ (sys.outside region).size + region.size := by
  have houtside : sys.outside region = sys.states \ region :=
    Std.ExtTreeSet.ext_mem fun s => by rw [mem_outside, Std.ExtTreeSet.mem_diff_iff, mem_states]
  have hsplit : (sys.states \ region).size + (sys.states ∩ region).size = sys.states.size :=
    Std.ExtTreeSet.size_diff_add_size_inter_eq_size_left
  have hinside : (sys.states ∩ region).size ≤ region.size :=
    Std.ExtTreeSet.size_inter_le_size_right
  rw [houtside]
  rw [size_states] at hsplit
  omega

theorem Within.fits (h : sys.Within b) (hfits : sys.size < setLimit) : b.Fits :=
  Nat.lt_of_le_of_lt (size_le_of_subset_states h.inside) hfits

/-- If the set of all states fits, then everything does. -/
theorem affords_of_fits (hv : sys.Valid) (hfits : sys.size < setLimit) (f : Formula) :
    sys.Affords f := by
  have hb := fun f => (bounds_within hv f).fits hfits
  induction f with
  | tt => exact hfits
  | neg f ih => exact ⟨ih, hb (.neg f)⟩
  | conj f g ihf ihg => exact ⟨ihf, ihg⟩
  | ex f ih => exact ⟨.inr ih, hb (.ex f)⟩
  | ax f ih => exact ⟨ih, hb (.ax f)⟩
  | eg f ih => exact ⟨ih, hfits⟩
  | eu f g ihf ihg => exact ⟨⟨ihf, ihg⟩, hb (.eu f g)⟩
  | ff | atom _ | disj _ _ | imp _ _ | iff _ _ | ag _ | ef _ | af _ | au _ _ => exact trivial

theorem setLimit_le_of_not_affords (hv : sys.Valid) (h : ¬sys.Affords f) : setLimit ≤ sys.size :=
  Nat.not_lt.1 fun hfits => h (affords_of_fits hv hfits f)

theorem affords_eg (hv : sys.Valid) : sys.Affords (.eg f) ↔ sys.size < setLimit :=
  ⟨And.right, fun hfits => affords_of_fits hv hfits (.eg f)⟩

/-! ## The evaluator computes the bounds -/

/-- `x` is the value `a` if `p` holds, and the fault that the states do not fit if not. -/
structure OkIf (p : Prop) (x : Except Fault α) (a : α) : Prop where
  ok : p → x = .ok a
  error : ¬p → x = .error .capacity

theorem OkIf.congr {p q : Prop} {x : Except Fault α} {a : α} (h : OkIf p x a) (hpq : q ↔ p) :
    OkIf q x a :=
  ⟨fun hq => h.ok (hpq.1 hq), fun hq => h.error fun hp => hq (hpq.2 hp)⟩

theorem OkIf.unique {p : Prop} {x y : Except Fault α} {a : α} (hx : OkIf p x a) (hy : OkIf p y a) :
    x = y := by
  by_cases hp : p
  · rw [hx.ok hp, hy.ok hp]
  · rw [hx.error hp, hy.error hp]

theorem OkIf.not_exists {p : Prop} {x : Except Fault α} {a : α} (h : OkIf p x a) (hp : ¬p) :
    ¬∃ b, x = .ok b := by
  rintro ⟨b, hb⟩
  rw [h.error hp] at hb
  cases hb

theorem OkIf.affords_or (hv : sys.Valid) {x : Except Fault α} {a : α}
    (h : OkIf (sys.Affords f) x a) :
    sys.Affords f ∧ x = .ok a ∨ x = .error .capacity ∧ setLimit ≤ sys.size := by
  by_cases hafford : sys.Affords f
  · exact .inl ⟨hafford, h.ok hafford⟩
  · exact .inr ⟨h.error hafford, setLimit_le_of_not_affords hv hafford⟩

theorem OkIf.bind {p q : Prop} {x : Except Fault α} {k : α → Except Fault β} {a : α} {b : β}
    (hx : OkIf p x a) (hk : OkIf q (k a) b) : OkIf (p ∧ q) (x >>= k) b where
  ok h := by
    rw [hx.ok h.1]
    exact hk.ok h.2
  error h := by
    by_cases hp : p
    · rw [hx.ok hp]
      exact hk.error fun hq => h ⟨hp, hq⟩
    · rw [hx.error hp]
      rfl

/-- The second of two parts does not break off. -/
theorem OkIf.bind_ok {p : Prop} {x : Except Fault α} {k : α → Except Fault β} {a : α} {b : β}
    (hx : OkIf p x a) (hk : k a = .ok b) : OkIf p (x >>= k) b :=
  (hx.bind (q := True) ⟨fun _ => hk, fun h => absurd trivial h⟩).congr (by simp)

theorem roomFor_okIf (count : Nat) : OkIf (count < setLimit) (roomFor count) () :=
  ⟨fun h => if_pos h, fun h => if_neg h⟩

theorem everyState_okIf : OkIf (sys.size < setLimit) sys.everyState sys.states :=
  (roomFor_okIf sys.size).bind_ok rfl

theorem held_okIf (region : Region) : OkIf (region.size < setLimit) region.held region :=
  (roomFor_okIf region.size).bind_ok rfl

theorem greatestFixpoint_okIf (rule : Rule) (candidates : Region) :
    OkIf (sys.size < setLimit) (sys.greatestFixpoint rule candidates).uncached
      (rule.greatest candidates sys.states).region := by
  simp only [greatestFixpoint, Access.uncached_bind, Access.uncached_ofExcept]
  exact everyState_okIf.bind_ok rfl

theorem Within.between_eq_ok (h : sys.Within b) : Bounds.between b.lower b.upper = .ok b :=
  Bounds.between_eq_ok h.ordered

/-- To build the bounds is to build the larger one of the two sets. -/
theorem Within.build_okIf (h : sys.Within b) : OkIf b.Fits (Bounds.build b.lower b.upper) b := by
  have hle : b.lower.size ≤ b.upper.size := Region.size_le_of_subset h.ordered
  refine ((held_okIf _).bind ((held_okIf _).bind_ok h.between_eq_ok)).congr ?_
  exact ⟨fun hfits => ⟨Nat.lt_of_le_of_lt hle hfits, hfits⟩, And.right⟩

theorem evaluateAtom_uncached (sys : System) (name : String) :
    (sys.evaluateAtom name).uncached = .ok (.exact (sys.bearing name)) := by
  unfold evaluateAtom bearing
  cases sys.index? name <;> rfl

theorem evaluate_ex (h : f ≠ .tt) : sys.evaluate (.ex f) = .reuse (.ex f) (do
    let b ← sys.evaluate f
    .counted sys.size (sys.existsNext b)) := by
  cases f <;> first | rfl | exact absurd rfl h

/-- The evaluator gives a core formula its bounds, exactly if the system affords that. -/
theorem evaluate_okIf (hv : sys.Valid) (hf : f.isCore = true) :
    OkIf (sys.Affords f) (sys.evaluate f).uncached (sys.bounds f) := by
  have hw := fun g => sys.bounds_within hv g
  have hbuild := fun g => (hw g).build_okIf
  have harmless : ∀ {x : Except Fault Bounds} {b : Bounds}, x = .ok b → OkIf True x b :=
    fun hx => ⟨fun _ => hx, fun h => absurd trivial h⟩
  induction f with
  | tt =>
    simp only [evaluate, Access.uncached_reuse, Access.uncached_bind, Access.uncached_ofExcept]
    exact everyState_okIf.bind_ok rfl
  | ff => exact harmless (Access.uncached_reuse _ _)
  | atom name =>
    rw [evaluate, Access.uncached_reuse]
    exact harmless (sys.evaluateAtom_uncached name)
  | neg f ih =>
    simp only [evaluate, Access.uncached_reuse, Access.uncached_bind, Access.uncached_ofExcept]
    exact (ih hf).bind (hbuild (.neg f))
  | conj f g ihf ihg =>
    obtain ⟨hf, hg⟩ := Bool.and_eq_true_iff.1 hf
    simp only [evaluate, Access.uncached_reuse, Access.uncached_bind, Access.uncached_ofExcept]
    exact (ihf hf).bind ((ihg hg).bind_ok (hw (.conj f g)).between_eq_ok)
  | ex f ih =>
    by_cases h : f = .tt
    · subst h
      simp only [evaluate, Access.uncached_reuse, Access.uncached_counted]
      exact (hbuild (.ex .tt)).congr (and_iff_right (.inl rfl))
    · have hnext := hbuild (.ex f)
      rw [bounds_ex h] at hnext
      rw [evaluate_ex h, bounds_ex h]
      simp only [Access.uncached_reuse, Access.uncached_bind, Access.uncached_counted]
      refine ((ih hf).bind hnext).congr ?_
      rw [Affords, bounds_ex h, or_iff_right h]
  | ax f ih =>
    simp only [evaluate, Access.uncached_reuse, Access.uncached_bind, Access.uncached_counted]
    exact (ih hf).bind (hbuild (.ax f))
  | eg f ih =>
    simp only [evaluate, evaluateAlways, Access.uncached_reuse, Access.uncached_bind,
      Access.uncached_ofExcept]
    -- both loops start with all states, and the second one finds that they fit
    refine ((ih hf).bind ((greatestFixpoint_okIf _ _).bind
      ((greatestFixpoint_okIf _ _).bind_ok (hw (.eg f)).between_eq_ok))).congr ?_
    rw [Affords, and_self_iff]
  | eu f g ihf ihg =>
    obtain ⟨hf, hg⟩ := Bool.and_eq_true_iff.1 hf
    simp only [evaluate, evaluateUntil, Access.uncached_reuse, Access.uncached_bind,
      Access.uncached_ofExcept, Access.uncached_leastFixpoint]
    exact ((ihf hf).bind ((ihg hg).bind (hbuild (.eu f g)))).congr and_assoc
  | disj _ _ | imp _ _ | iff _ _ | ag _ | ef _ | af _ | au _ _ => cases hf

/-- `x` is the value `a`, unless the states do not fit into a set. -/
def OkIfFits (sys : System) (x : Except Fault α) (a : α) : Prop :=
  x = .ok a ∨ x = .error .capacity ∧ setLimit ≤ sys.size

theorem OkIf.okIfFits {p : Prop} {x : Except Fault α} {a : α} (h : OkIf p x a)
    (hp : sys.size < setLimit → p) : sys.OkIfFits x a := by
  by_cases hfits : p
  · exact .inl (h.ok hfits)
  · exact .inr ⟨h.error hfits, Nat.not_lt.1 fun hlt => hfits (hp hlt)⟩

theorem everyState_okIfFits : sys.OkIfFits sys.everyState sys.states :=
  everyState_okIf.okIfFits fun h => h

end System

end BranchingTime
