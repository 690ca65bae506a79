/-
Bounds are right however the exploration goes on. A Kripke structure completes a
system if it agrees with all that the system knows: the labels, all successors
outside the frontier, some of the successors on it (`Completes`). In every such
structure a state of the lower bound satisfies the formula, and a state that
satisfies it is in the upper bound (`Encloses`).

There is one lemma for each operator of the core. Those of the two iterations
carry the argument: what the lower iteration ends at is a property of states of
the structure that can always go on, and the states of the system where `EG`
holds are never lost by the upper one; for the until it is the other way round.
-/
import BranchingTime.Proofs.Checker
import BranchingTime.Proofs.Kripke
import BranchingTime.System.Build

namespace BranchingTime

universe u

/-- A way in which the exploration of a system may end. The states of the system
are found in it by `place`; about all its other states nothing is said. -/
structure Kripke.Completes {σ : Type u} (K : Kripke σ) (sys : System) (place : Nat → σ) : Prop where
  /-- A name that the system does not know labels none of its states. -/
  bears : ∀ {s : Nat} {name : String}, s < sys.size →
    (K.bears (place s) name ↔ s ∈ sys.bearing name)
  explored : ∀ {s : Nat} {k : σ}, s < sys.size → s ∉ sys.frontier →
    (K.next (place s) k ↔ ∃ t, sys.Leads s t ∧ place t = k)
  known : ∀ {s t : Nat}, s ∈ sys.frontier → sys.Leads s t → K.next (place s) (place t)
  goesOn : ∀ {s : Nat}, s ∈ sys.frontier → ∃ k, K.next (place s) k

variable {σ : Type u} {K : Kripke σ} {sys : System} {place : Nat → σ} {f g : Formula} {s t : Nat}

theorem Kripke.Completes.next_of_leads (hK : K.Completes sys place) (hs : s < sys.size)
    (h : sys.Leads s t) : K.next (place s) (place t) := by
  by_cases hf : s ∈ sys.frontier
  · exact hK.known hf h
  · exact (hK.explored hs hf).2 ⟨t, h, rfl⟩

namespace System

/-- The system as it is known, taken for all that there is. -/
def kripke (sys : System) : Kripke Nat where
  next := sys.Leads
  bears s name := s ∈ sys.bearing name

/-- Without a frontier, all that is known is all that there is. -/
theorem kripke_completes (h : ∀ s, s ∉ sys.frontier) : sys.kripke.Completes sys id where
  bears _ := Iff.rfl
  explored _ _ := by simp [kripke]
  known hs := absurd hs (h _)
  goesOn hs := absurd hs (h _)

/-! ## One operator at a time -/

/-- The states of the system that satisfy `f` in the structure are between the
bounds of `f`. -/
structure Encloses (sys : System) (K : Kripke σ) (place : Nat → σ) (f : Formula) : Prop where
  lower : ∀ {s}, s < sys.size → s ∈ (sys.bounds f).lower → K.Sat f (place s)
  upper : ∀ {s}, s < sys.size → K.Sat f (place s) → s ∈ (sys.bounds f).upper

namespace Encloses

theorem atom (hK : K.Completes sys place) (name : String) :
    sys.Encloses K place (.atom name) where
  lower hs h := (hK.bears hs).2 h
  upper hs h := (hK.bears hs).1 h

/-- Negation turns the bounds round. -/
theorem neg (h : sys.Encloses K place f) : sys.Encloses K place (.neg f) where
  lower hs hl hf := (mem_lower_neg.1 hl).2 (h.upper hs hf)
  upper hs hf := mem_upper_neg.2 ⟨hs, fun hl => hf (h.lower hs hl)⟩

theorem conj (hf : sys.Encloses K place f) (hg : sys.Encloses K place g) :
    sys.Encloses K place (.conj f g) where
  lower hs hl := ⟨hf.lower hs (mem_lower_conj.1 hl).1, hg.lower hs (mem_lower_conj.1 hl).2⟩
  upper hs h := mem_upper_conj.2 ⟨hf.upper hs h.1, hg.upper hs h.2⟩

/-- Where a successor is asked for, a state of the frontier has one: both bounds
are exact. -/
theorem ex_true (hK : K.Completes sys place) : sys.Encloses K place (.ex .tt) where
  lower {s} hs hl := by
    obtain ⟨-, ⟨t, ht⟩ | hopen⟩ := mem_bounds_ex_true.1 hl
    · exact Kripke.sat_ex.2 ⟨place t, hK.next_of_leads hs ht, trivial⟩
    · obtain ⟨k, hk⟩ := hK.goesOn hopen
      exact Kripke.sat_ex.2 ⟨k, hk, trivial⟩
  upper {s} hs h := by
    obtain ⟨k, hk, -⟩ := Kripke.sat_ex.1 h
    refine mem_bounds_ex_true.2 ⟨hs, ?_⟩
    by_cases hopen : s ∈ sys.frontier
    · exact .inr hopen
    · obtain ⟨t, ht, -⟩ := (hK.explored hs hopen).1 hk
      exact .inl ⟨t, ht⟩

theorem ex (hv : sys.Valid) (hK : K.Completes sys place) (hne : f ≠ .tt)
    (h : sys.Encloses K place f) : sys.Encloses K place (.ex f) where
  lower {s} hs hl := by
    obtain ⟨-, t, ht, hmem⟩ := (mem_lower_ex hne).1 hl
    exact Kripke.sat_ex.2 ⟨place t, hK.next_of_leads hs ht, h.lower (ht.target_lt hv) hmem⟩
  upper {s} hs hsat := by
    obtain ⟨k, hk, hf⟩ := Kripke.sat_ex.1 hsat
    refine (mem_upper_ex hne).2 ⟨hs, ?_⟩
    by_cases hopen : s ∈ sys.frontier
    · exact .inr hopen
    · obtain ⟨t, ht, rfl⟩ := (hK.explored hs hopen).1 hk
      exact .inl ⟨t, ht, h.upper (ht.target_lt hv) hf⟩

theorem ax (hv : sys.Valid) (hK : K.Completes sys place) (h : sys.Encloses K place f) :
    sys.Encloses K place (.ax f) where
  lower {s} hs hl := by
    obtain ⟨-, hopen, hall⟩ := mem_lower_ax.1 hl
    refine Kripke.sat_ax.2 fun k hk => ?_
    obtain ⟨t, ht, rfl⟩ := (hK.explored hs hopen).1 hk
    exact h.lower (ht.target_lt hv) (hall t ht)
  upper {s} hs hsat := by
    rw [Kripke.sat_ax] at hsat
    refine mem_upper_ax.2 ⟨hs, .inr fun t ht => ?_⟩
    exact h.upper (ht.target_lt hv) (hsat _ (hK.next_of_leads hs ht))

theorem eg (hv : sys.Valid) (hK : K.Completes sys place) (h : sys.Encloses K place f) :
    sys.Encloses K place (.eg f) where
  lower {s} hs hl := by
    -- the states found in the structure for the end of the iteration can always go on
    refine Kripke.Sat.eg_of_forall
      (X := fun k => ∃ t < sys.size, t ∈ (sys.bounds (.eg f)).lower ∧ place t = k)
      ?_ ?_ ⟨s, hs, hl, rfl⟩
    · rintro _ ⟨t, ht, hmem, rfl⟩
      exact h.lower ht (Rule.mem_greatest hmem).1
    · rintro _ ⟨t, ht, hmem, rfl⟩
      rcases surelyGoesOn_iff.1 (Rule.mem_greatest hmem).2 with ⟨u, hu, hin⟩ | ⟨hnone, hopen⟩
      · exact .inr ⟨place u, hK.next_of_leads ht hu, u, hu.target_lt hv, hin, rfl⟩
      · refine .inl fun k hk => ?_
        obtain ⟨u, hu, -⟩ := (hK.explored ht hopen).1 hk
        exact hnone u hu
  upper {s} hs hsat := by
    -- the states of the system with `EG f` support one another
    refine Rule.mem_greatest_of_forall
      (P := fun t => t < sys.size ∧ K.Sat (.eg f) (place t)) ?_ ?_ ?_ ⟨hs, hsat⟩
    · exact fun t ht => mem_states.2 ht.1
    · exact fun t ht => h.upper ht.1 ht.2.eg_inv.1
    · rintro region t hregion ⟨ht, heg⟩
      rw [maybeGoesOn_iff]
      by_cases hopen : t ∈ sys.frontier
      · exact .inr (.inr hopen)
      rcases heg.eg_inv.2 with hdead | ⟨k, hk, hkeg⟩
      · exact .inr (.inl fun u hu => hdead _ (hK.next_of_leads ht hu))
      · obtain ⟨u, hu, rfl⟩ := (hK.explored ht hopen).1 hk
        exact .inl ⟨u, hu, hregion u ⟨hu.target_lt hv, hkeg⟩⟩

theorem eu (hv : sys.Valid) (hK : K.Completes sys place) (hf : sys.Encloses K place f)
    (hg : sys.Encloses K place g) : sys.Encloses K place (.eu f g) where
  lower {s} hs hl := by
    refine Rule.forall_mem_least (P := fun t => t < sys.size → K.Sat (.eu f g) (place t))
      ?_ ?_ s hl hs
    · exact fun t hmem ht => .eu_of_right (hg.lower ht hmem)
    · intro region hregion t hmem hsupports ht
      obtain ⟨u, hu, hin⟩ := surelyEnters_iff.1 hsupports
      exact .eu_of_next (hf.lower ht hmem) (hK.next_of_leads ht hu)
        (hregion u hin (hu.target_lt hv))
  upper {s} hs hsat := by
    -- back along the path, every state of the system on it is added
    refine Kripke.Sat.eu_induction
      (P := fun k => ∀ t < sys.size, place t = k → t ∈ (sys.bounds (.eu f g)).upper)
      ?_ ?_ hsat s hs rfl
    · rintro _ hk t ht rfl
      exact Rule.mem_least.2 (.inl (hg.upper ht hk))
    · rintro _ b hk hnext hb t ht rfl
      refine Rule.mem_least.2 (.inr ⟨hf.upper ht hk, maybeEnters_iff.2 ?_⟩)
      by_cases hopen : t ∈ sys.frontier
      · exact .inl hopen
      · obtain ⟨u, hu, rfl⟩ := (hK.explored ht hopen).1 hnext
        exact .inr ⟨u, hu, hb u (hu.target_lt hv) rfl⟩

end Encloses

/-- The bounds of a core formula enclose it. -/
theorem bounds_enclose (hv : sys.Valid) (hK : K.Completes sys place) (hf : f.isCore = true) :
    sys.Encloses K place f := by
  induction f with
  | tt => exact ⟨fun _ _ => trivial, fun hs _ => mem_states.2 hs⟩
  | ff => exact ⟨fun _ hl => absurd hl Std.ExtTreeSet.not_mem_empty, fun _ h => h.elim⟩
  | atom name => exact .atom hK name
  | neg f ih => exact (ih hf).neg
  | conj f g ihf ihg =>
    obtain ⟨hf, hg⟩ := Bool.and_eq_true_iff.1 hf
    exact (ihf hf).conj (ihg hg)
  | ex f ih =>
    by_cases hne : f = .tt
    · subst hne
      exact .ex_true hK
    · exact (ih hf).ex hv hK hne
  | ax f ih => exact (ih hf).ax hv hK
  | eg f ih => exact (ih hf).eg hv hK
  | eu f g ihf ihg =>
    obtain ⟨hf, hg⟩ := Bool.and_eq_true_iff.1 hf
    exact (ihf hf).eu hv hK (ihg hg)
  | disj _ _ | imp _ _ | iff _ _ | ag _ | ef _ | af _ | au _ _ => cases hf

/-! ## Checks -/

/-- **A check is sound for every completion.** On a valid system, whatever was
done on the checker before, the check of any formula gives bounds that enclose
it, or breaks off since the states do not fit into a set. -/
theorem check_encloses_completion {c : Checker} (hv : sys.Valid) (hK : K.Completes sys place)
    (hc : c.Reached sys) (f : Formula) :
    (∃ b, ((c.session sys).check f).1 = .ok b ∧ ∀ s < sys.size,
      (s ∈ b.lower → K.Sat f (place s)) ∧ (K.Sat f (place s) → s ∈ b.upper)) ∨
    ((c.session sys).check f).1 = .error .capacity ∧ setLimit ≤ sys.size := by
  rcases hc.check_okIfFits hv f with hok | hfault
  · refine .inl ⟨_, hok, fun s hs => ?_⟩
    have hencloses := bounds_enclose hv hK f.isCore_toCore
    rw [← K.sat_toCore f]
    exact ⟨hencloses.lower hs, hencloses.upper hs⟩
  · exact .inr hfault

/-- The completion in which every state of the frontier leads to one new state,
from which nothing else is reached. -/
def opened (sys : System) : Kripke (Option Nat) where
  next
    | some s, some t => sys.Leads s t
    | some s, none => s ∈ sys.frontier
    | none, k => k = none
  bears
    | some s, name => s ∈ sys.bearing name
    | none, _ => False

theorem opened_completes (sys : System) : sys.opened.Completes sys some where
  bears _ := Iff.rfl
  explored {s k} _ hopen := by
    cases k with
    | none => simpa [opened] using hopen
    | some t => simp [opened]
  known _ h := h
  goesOn hs := ⟨none, hs⟩

theorem check_encloses_completion_ring :
    (ring 3).Valid ∧ (ring 3).opened.Completes (ring 3) some ∧ Checker.Reached (ring 3) {} ∧
    ∃ b, ((({} : Checker).session (ring 3)).check (.ag (.ef (.atom "p")))).1 = .ok b ∧
      ∀ s < (ring 3).size,
        (s ∈ b.lower → (ring 3).opened.Sat (.ag (.ef (.atom "p"))) (some s)) ∧
        ((ring 3).opened.Sat (.ag (.ef (.atom "p"))) (some s) → s ∈ b.upper) := by
  have hv : (ring 3).Valid := violation?_eq_none.1 (by decide +kernel)
  have hfits : ¬setLimit ≤ (ring 3).size := by decide +kernel
  refine ⟨hv, opened_completes _, .refl, ?_⟩
  exact (check_encloses_completion hv (opened_completes _) .refl
    (.ag (.ef (.atom "p")))).resolve_right fun hfault => hfits hfault.2

/-! ## Systems that are too large -/

/-- Where the states do not fit, a check that needs all of them has no answer,
however small the answer would be. -/
theorem check_conj_true_eq_error {c : Checker} (hc : c.Reached sys) (h : setLimit ≤ sys.size)
    (name : String) :
    ((c.session sys).check (.conj (.atom name) .tt)).1 = .error .capacity := by
  rw [hc.check_fst]
  simp only [Formula.toCore, evaluate, Access.uncached_reuse, Access.uncached_bind,
    Access.uncached_ofExcept, evaluateAtom_uncached, everyState_okIf.error (Nat.not_lt.2 h)]
  rfl

/-- The iterations of `EG` do not even start. -/
theorem check_eg_eq_error {c : Checker} (hv : sys.Valid) (hc : c.Reached sys)
    (h : setLimit ≤ sys.size) (f : Formula) :
    ((c.session sys).check (.eg f)).1 = .error .capacity :=
  (hc.check_okIf hv (.eg f)).error fun hafford => Nat.not_lt.2 h hafford.2

/-- A system with almost as many states as a machine word can count, and `p` in
one of them. -/
def vast : System := ofSteps 18446744073709551614 [.label "p" 3]

theorem vast_valid : vast.Valid := violation?_eq_none.1 (by decide +kernel)

theorem not_mem_frontier_vast (s : Nat) : s ∉ vast.frontier := Std.ExtTreeSet.not_mem_empty

theorem size_bearing_vast : (vast.bearing "p").size = 1 := by decide +kernel

/-- All states but one are still too many. -/
theorem vast_not_affords_neg : ¬vast.Affords (.neg (.atom "p")) := by
  rintro ⟨-, hfits⟩
  have hfits : (vast.outside (vast.bearing "p")).size < setLimit := hfits
  have hall := vast.size_le_outside_add (vast.bearing "p")
  have hvast : setLimit < vast.size := by decide
  rw [size_bearing_vast] at hall
  omega

theorem vast_sat : vast.kripke.Sat (.conj (.atom "p") .tt) 3 := by
  have h : 3 ∈ vast.bearing "p" := by decide +kernel
  exact ⟨h, trivial⟩

/-- The one state of `p` is missed in a system that is too large. -/
theorem vast_satisfying_state_missed :
    vast.Valid ∧ vast.size < 18446744073709551615 ∧ vast.kripke.Completes vast id ∧
    vast.kripke.Sat (.conj (.atom "p") .tt) 3 ∧
    ¬∃ b, ((({} : Checker).session vast).check (.conj (.atom "p") .tt)).1 = .ok b ∧
      3 ∈ b.upper := by
  refine ⟨vast_valid, by decide, kripke_completes not_mem_frontier_vast, vast_sat, ?_⟩
  rintro ⟨b, hb, -⟩
  rw [check_conj_true_eq_error .refl (by decide)] at hb
  cases hb

end System

end BranchingTime
