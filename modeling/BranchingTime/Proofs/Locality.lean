/-
A verdict depends on nothing that cannot be seen from its state. Take a set of states
that known edges do not lead out of. If two systems have the same edges, the same
frontier and the same labels there, for the propositions of a formula, then they give
the formula the same verdicts there (`AgreesOn.mem_bounds_iff`): whatever else is in the
two systems, how many states they have, and which indices their propositions bear.

The iterations of the two systems run over different regions, for different numbers of
rounds. What is carried from one to the other is a comparison of their rules on the
states in question (`CarriesOn`); the two principles of the iterations turn it into a
comparison of their ends, once for all four rules.
-/
import BranchingTime.Proofs.CoreForm
import BranchingTime.Proofs.Refinement

namespace BranchingTime

/-! ## Rules on a part of the states -/

namespace Rule

variable {R : Nat → Prop} {rule rule' : Rule} {s : Nat}

/-- On `R`, the second rule supports what the first one does, from any region that has
the same states of `R` and more. -/
def CarriesOn (R : Nat → Prop) (rule rule' : Rule) : Prop :=
  ∀ (region region' : Region) (s : Nat), (∀ t, R t → t ∈ region → t ∈ region') → R s →
    rule.supports region s = true → rule'.supports region' s = true

theorem CarriesOn.mem_greatest {candidates candidates' start start' : Region}
    (h : CarriesOn R rule rule') (hstart : ∀ t, R t → t ∈ start')
    (hcandidates : ∀ t, R t → t ∈ candidates → t ∈ candidates') (hs : R s)
    (hmem : s ∈ (rule.greatest candidates start).region) :
    s ∈ (rule'.greatest candidates' start').region := by
  -- the end of the first iteration, cut down to `R`, supports itself in the second one
  refine mem_greatest_of_forall
    (P := fun t => R t ∧ t ∈ (rule.greatest candidates start).region) ?_ ?_ ?_ ⟨hs, hmem⟩
  · exact fun t ht => hstart t ht.1
  · exact fun t ht => hcandidates t ht.1 (Rule.mem_greatest ht.2).1
  · rintro region t hregion ⟨ht, hmem⟩
    exact h _ region t (fun u hu hin => hregion u ⟨hu, hin⟩) ht (Rule.mem_greatest hmem).2

theorem CarriesOn.mem_least {base base' candidates candidates' : Region}
    (h : CarriesOn R rule rule') (hbase : ∀ t, R t → t ∈ base → t ∈ base')
    (hcandidates : ∀ t, R t → t ∈ candidates → t ∈ candidates') (hs : R s)
    (hmem : s ∈ (rule.least base candidates).region) :
    s ∈ (rule'.least base' candidates').region := by
  refine forall_mem_least (P := fun t => R t → t ∈ (rule'.least base' candidates').region)
    ?_ ?_ s hmem hs
  · exact fun t ht hR => Rule.mem_least.2 (.inl (hbase t hR ht))
  · intro region hregion t ht hsupports hR
    refine Rule.mem_least.2 (.inr ⟨hcandidates t hR ht, ?_⟩)
    exact h region _ t (fun u hu hin => hregion u hin hu) hR hsupports

end Rule

namespace System

variable {sys sys' : System} {R : Nat → Prop} {names : String → Prop} {f g : Formula} {s : Nat}

/-! ## Systems that agree on a part of their states -/

/-- The two systems cannot be told apart on `R` by edges, by the frontier and by the
propositions of these names, and known edges do not lead out of `R`. -/
structure AgreesOn (sys sys' : System) (R : Nat → Prop) (names : String → Prop) : Prop where
  left : ∀ {s : Nat}, R s → s < sys.size
  right : ∀ {s : Nat}, R s → s < sys'.size
  closed : ∀ {s t : Nat}, R s → sys.Leads s t → R t
  leads : ∀ {s t : Nat}, R s → (sys.Leads s t ↔ sys'.Leads s t)
  frontier : ∀ {s : Nat}, R s → (s ∈ sys.frontier ↔ s ∈ sys'.frontier)
  bearing : ∀ {s : Nat} {name : String}, R s → names name →
    (s ∈ sys.bearing name ↔ s ∈ sys'.bearing name)

namespace AgreesOn

theorem symm (h : sys.AgreesOn sys' R names) : sys'.AgreesOn sys R names where
  left := h.right
  right := h.left
  closed hs ht := h.closed hs ((h.leads hs).2 ht)
  leads hs := (h.leads hs).symm
  frontier hs := (h.frontier hs).symm
  bearing hs hname := (h.bearing hs hname).symm

theorem exists_leads (h : sys.AgreesOn sys' R names) {P Q : Nat → Prop} (hs : R s)
    (hPQ : ∀ t, R t → P t → Q t) (hP : ∃ t, sys.Leads s t ∧ P t) : ∃ t, sys'.Leads s t ∧ Q t := by
  obtain ⟨t, ht, hPt⟩ := hP
  exact ⟨t, (h.leads hs).1 ht, hPQ t (h.closed hs ht) hPt⟩

theorem forall_leads (h : sys.AgreesOn sys' R names) {P Q : Nat → Prop} (hs : R s)
    (hPQ : ∀ t, R t → P t → Q t) (hP : ∀ t, sys.Leads s t → P t) : ∀ t, sys'.Leads s t → Q t := by
  intro t ht
  have ht := (h.leads hs).2 ht
  exact hPQ t (h.closed hs ht) (hP t ht)

theorem no_leads (h : sys.AgreesOn sys' R names) (hs : R s) (hnone : ∀ t, ¬sys.Leads s t) :
    ∀ t, ¬sys'.Leads s t :=
  fun t ht => hnone t ((h.leads hs).2 ht)

/-! ## Changes elsewhere -/

/-- More states make no difference to those that were there. -/
theorem grow (hv : sys.Valid) {size : Nat} (hsize : sys.size ≤ size) :
    sys.AgreesOn { sys with size := size } (· < sys.size) names where
  left hs := hs
  right hs := Nat.lt_of_lt_of_le hs hsize
  closed _ ht := ht.target_lt hv
  leads _ := Iff.rfl
  frontier _ := Iff.rfl
  bearing _ _ := Iff.rfl

theorem addEdge (h : sys.AgreesOn sys' R names) {source : Nat} (hsource : ¬R source)
    (target : Nat) : sys.AgreesOn (sys'.addEdge source target) R names where
  left := h.left
  right := h.right
  closed := h.closed
  leads {s t} hs := by
    have hne : s ≠ source := fun he => hsource (he ▸ hs)
    rw [leads_addEdge, h.leads hs, or_iff_left fun heq => hne heq.1]
  frontier := h.frontier
  bearing := h.bearing

theorem addFrontier (h : sys.AgreesOn sys' R names) {state : Nat} (hstate : ¬R state) :
    sys.AgreesOn (sys'.addFrontier state) R names where
  left := h.left
  right := h.right
  closed := h.closed
  leads := h.leads
  frontier {s} hs := by
    have hne : s ≠ state := fun he => hstate (he ▸ hs)
    rw [mem_frontier_addFrontier, h.frontier hs, or_iff_right hne]
  bearing := h.bearing

/-! ## The rules -/

theorem surelyGoesOn (h : sys.AgreesOn sys' R names) :
    Rule.CarriesOn R sys.surelyGoesOn sys'.surelyGoesOn := by
  intro region region' s hregion hs hsupports
  rw [surelyGoesOn_iff] at hsupports ⊢
  exact hsupports.imp (h.exists_leads hs hregion)
    (And.imp (h.no_leads hs) fun hopen hopen' => hopen ((h.frontier hs).2 hopen'))

theorem maybeGoesOn (h : sys.AgreesOn sys' R names) :
    Rule.CarriesOn R sys.maybeGoesOn sys'.maybeGoesOn := by
  intro region region' s hregion hs hsupports
  rw [maybeGoesOn_iff] at hsupports ⊢
  exact hsupports.imp (h.exists_leads hs hregion) (Or.imp (h.no_leads hs) (h.frontier hs).1)

theorem surelyEnters (h : sys.AgreesOn sys' R names) :
    Rule.CarriesOn R sys.surelyEnters sys'.surelyEnters := by
  intro region region' s hregion hs hsupports
  rw [surelyEnters_iff] at hsupports ⊢
  exact h.exists_leads hs hregion hsupports

theorem maybeEnters (h : sys.AgreesOn sys' R names) :
    Rule.CarriesOn R sys.maybeEnters sys'.maybeEnters := by
  intro region region' s hregion hs hsupports
  rw [maybeEnters_iff] at hsupports ⊢
  exact hsupports.imp (h.frontier hs).1 (h.exists_leads hs hregion)

end AgreesOn

/-! ## One operator at a time -/

/-- The states of `R` in the bounds of the formula are carried over to the second system. -/
structure Carries (sys sys' : System) (R : Nat → Prop) (f : Formula) : Prop where
  lower : ∀ s, R s → s ∈ (sys.bounds f).lower → s ∈ (sys'.bounds f).lower
  upper : ∀ s, R s → s ∈ (sys.bounds f).upper → s ∈ (sys'.bounds f).upper

namespace Carries

theorem tt (h : sys.AgreesOn sys' R names) : sys.Carries sys' R .tt where
  lower _ hs _ := mem_states.2 (h.right hs)
  upper _ hs _ := mem_states.2 (h.right hs)

theorem atom {name : String} (h : sys.AgreesOn sys' R names) (hname : names name) :
    sys.Carries sys' R (.atom name) where
  lower _ hs := (h.bearing hs hname).1
  upper _ hs := (h.bearing hs hname).1

/-- Negation turns the bounds round, so its operand is carried the other way. -/
theorem neg (h : sys.AgreesOn sys' R names) (hf : sys'.Carries sys R f) :
    sys.Carries sys' R (.neg f) where
  lower s hs hmem :=
    mem_lower_neg.2 ⟨h.right hs, fun hu => (mem_lower_neg.1 hmem).2 (hf.upper s hs hu)⟩
  upper s hs hmem :=
    mem_upper_neg.2 ⟨h.right hs, fun hl => (mem_upper_neg.1 hmem).2 (hf.lower s hs hl)⟩

theorem conj (hf : sys.Carries sys' R f) (hg : sys.Carries sys' R g) :
    sys.Carries sys' R (.conj f g) where
  lower s hs hmem := mem_lower_conj.2 ((mem_lower_conj.1 hmem).imp (hf.lower s hs) (hg.lower s hs))
  upper s hs hmem := mem_upper_conj.2 ((mem_upper_conj.1 hmem).imp (hf.upper s hs) (hg.upper s hs))

theorem ex_true (h : sys.AgreesOn sys' R names) : sys.Carries sys' R (.ex .tt) := by
  have hnext : ∀ s, R s → s ∈ (sys.bounds (.ex .tt)).lower →
      s ∈ (sys'.bounds (.ex .tt)).lower := by
    intro s hs hmem
    refine mem_bounds_ex_true.2 ⟨h.right hs, (mem_bounds_ex_true.1 hmem).2.imp ?_ ?_⟩
    · exact Exists.imp fun t => (h.leads hs).1
    · exact (h.frontier hs).1
  exact ⟨hnext, hnext⟩

theorem ex (h : sys.AgreesOn sys' R names) (hne : f ≠ .tt) (hf : sys.Carries sys' R f) :
    sys.Carries sys' R (.ex f) where
  lower s hs hmem := by
    refine (mem_lower_ex hne).2 ⟨h.right hs, ?_⟩
    exact h.exists_leads hs hf.lower ((mem_lower_ex hne).1 hmem).2
  upper s hs hmem := by
    refine (mem_upper_ex hne).2 ⟨h.right hs, ?_⟩
    exact ((mem_upper_ex hne).1 hmem).2.imp (h.exists_leads hs hf.upper) (h.frontier hs).1

theorem ax (h : sys.AgreesOn sys' R names) (hf : sys.Carries sys' R f) :
    sys.Carries sys' R (.ax f) where
  lower s hs hmem := by
    obtain ⟨-, hopen, hall⟩ := mem_lower_ax.1 hmem
    refine mem_lower_ax.2 ⟨h.right hs, fun hopen' => hopen ((h.frontier hs).2 hopen'), ?_⟩
    exact h.forall_leads hs hf.lower hall
  upper s hs hmem := by
    refine mem_upper_ax.2 ⟨h.right hs, ?_⟩
    exact (mem_upper_ax.1 hmem).2.imp (h.frontier hs).1 (h.forall_leads hs hf.upper)

theorem eg (h : sys.AgreesOn sys' R names) (hf : sys.Carries sys' R f) :
    sys.Carries sys' R (.eg f) := by
  have hstates : ∀ t, R t → t ∈ sys'.states := fun t ht => mem_states.2 (h.right ht)
  exact ⟨fun s => h.surelyGoesOn.mem_greatest hstates hf.lower,
    fun s => h.maybeGoesOn.mem_greatest hstates hf.upper⟩

theorem eu (h : sys.AgreesOn sys' R names) (hf : sys.Carries sys' R f)
    (hg : sys.Carries sys' R g) : sys.Carries sys' R (.eu f g) where
  lower _ := h.surelyEnters.mem_least hg.lower hf.lower
  upper _ := h.maybeEnters.mem_least hg.upper hf.upper

end Carries

/-- Where two systems agree, the bounds of formulas over these names are carried over. -/
theorem AgreesOn.carries (h : sys.AgreesOn sys' R names) (hf : ∀ name ∈ f.atoms, names name) :
    sys.Carries sys' R f := by
  -- for all pairs of systems at once: negation goes from the second system to the first
  induction f generalizing sys sys' with
  | tt => exact .tt h
  | atom name => exact .atom h (hf name (by simp [Formula.atoms]))
  | neg f ih => exact (ih h.symm hf).neg h
  | conj f g ihf ihg =>
    simp only [Formula.atoms, Std.ExtTreeSet.mem_union_iff] at hf
    have hleft := ihf h fun name hname => hf name (.inl hname)
    have hright := ihg h fun name hname => hf name (.inr hname)
    exact hleft.conj hright
  | ex f ih =>
    by_cases hne : f = .tt
    · subst hne
      exact .ex_true h
    · exact (ih h hf).ex h hne
  | ax f ih => exact (ih h hf).ax h
  | eg f ih => exact (ih h hf).eg h
  | eu f g ihf ihg =>
    simp only [Formula.atoms, Std.ExtTreeSet.mem_union_iff] at hf
    have hleft := ihf h fun name hname => hf name (.inl hname)
    have hright := ihg h fun name hname => hf name (.inr hname)
    exact hleft.eu h hright
  | ff | disj _ _ | imp _ _ | iff _ _ | ag _ | ef _ | af _ | au _ _ =>
    exact ⟨fun _ _ hmem => hmem, fun _ _ hmem => hmem⟩

/-- So the bounds have the same states of `R`. -/
theorem AgreesOn.mem_bounds_iff (h : sys.AgreesOn sys' R names)
    (hf : ∀ name ∈ f.atoms, names name) (hs : R s) :
    (s ∈ (sys.bounds f).lower ↔ s ∈ (sys'.bounds f).lower) ∧
      (s ∈ (sys.bounds f).upper ↔ s ∈ (sys'.bounds f).upper) := by
  have hcarries := h.carries hf
  have hback := h.symm.carries hf
  exact ⟨⟨hcarries.lower s hs, hback.lower s hs⟩, ⟨hcarries.upper s hs, hback.upper s hs⟩⟩

/-! ## Checks -/

/-- **Verdicts are local.** Two valid systems that agree on a set of states, for the
propositions of a formula, give it the same verdicts there, whatever was done on the two
checkers before; or one of the two checks breaks off since the states of its system do
not fit into a set. -/
theorem check_verdict_eq_of_agreesOn {c c' : Checker} (hv : sys.Valid) (hv' : sys'.Valid)
    (h : sys.AgreesOn sys' R (· ∈ f.atoms)) (hc : c.Reached sys) (hc' : c'.Reached sys') :
    (∃ b b', ((c.session sys).check f).1 = .ok b ∧ ((c'.session sys').check f).1 = .ok b' ∧
      ∀ s, R s → b.verdict s = b'.verdict s) ∨
    ((c.session sys).check f).1 = .error .capacity ∧ setLimit ≤ sys.size ∨
    ((c'.session sys').check f).1 = .error .capacity ∧ setLimit ≤ sys'.size := by
  have hatoms : ∀ name ∈ f.toCore.atoms, name ∈ f.atoms :=
    fun name => Formula.mem_atoms_toCore.1
  rcases hc.check_okIfFits hv f with hok | hfault
  · rcases hc'.check_okIfFits hv' f with hok' | hfault
    · refine .inl ⟨_, _, hok, hok', fun s hs => ?_⟩
      obtain ⟨hlower, hupper⟩ := h.mem_bounds_iff hatoms hs
      simp only [Bounds.verdict, hlower, hupper]
    · exact .inr (.inr hfault)
  · exact .inr (.inl hfault)

/-- A circle of states with two more, from one of which an edge leads into it. -/
def ringWithTail : System :=
  ({ ring 3 with size := 5 }.addEdge 4 0).addFrontier 3

theorem check_verdict_eq_of_agreesOn_ring :
    (ring 3).Valid ∧ ringWithTail.Valid ∧
    (ring 3).AgreesOn ringWithTail (· < 3) (· ∈ (Formula.af (.eg (.atom "p"))).atoms) ∧
    Checker.Reached (ring 3) {} ∧ Checker.Reached ringWithTail {} ∧
    ∃ b b', ((({} : Checker).session (ring 3)).check (.af (.eg (.atom "p")))).1 = .ok b ∧
      ((({} : Checker).session ringWithTail).check (.af (.eg (.atom "p")))).1 = .ok b' ∧
      ∀ s < 3, b.verdict s = b'.verdict s := by
  have hv : (ring 3).Valid := violation?_eq_none.1 (by decide +kernel)
  have hv' : ringWithTail.Valid := violation?_eq_none.1 (by decide +kernel)
  have hagrees : (ring 3).AgreesOn ringWithTail (· < 3)
      (· ∈ (Formula.af (.eg (.atom "p"))).atoms) :=
    ((AgreesOn.grow hv (by decide)).addEdge (by decide) 0).addFrontier (by decide)
  refine ⟨hv, hv', hagrees, .refl, .refl, ?_⟩
  refine (check_verdict_eq_of_agreesOn hv hv' hagrees .refl .refl).resolve_right ?_
  rintro (⟨-, hsize⟩ | ⟨-, hsize⟩)
  · exact absurd hsize (by decide +kernel)
  · exact absurd hsize (by decide +kernel)

/-- In a system that is too large, not even the verdict on a state without edges is the
one that it has in a small system. -/
theorem vast_verdict_lost :
    outset.Valid ∧ vast.Valid ∧ vast.size < 18446744073709551615 ∧
    outset.AgreesOn vast (· = 3) (· ∈ (Formula.conj (.atom "p") .tt).atoms) ∧
    (∃ b, ((({} : Checker).session outset).check (.conj (.atom "p") .tt)).1 = .ok b ∧
      b.verdict 3 = .holds) ∧
    ¬∃ b, ((({} : Checker).session vast).check (.conj (.atom "p") .tt)).1 = .ok b ∧
      b.verdict 3 = .holds := by
  have hv : outset.Valid := violation?_eq_none.1 (by decide +kernel)
  have hagrees : outset.AgreesOn vast (· = 3) (· ∈ (Formula.conj (.atom "p") .tt).atoms) := {
    left := by rintro s rfl; decide
    right := by rintro s rfl; decide
    closed _ ht := absurd ht (by simp [outset, ofSteps, step, leads_iff_mem_getD, unexplored,
      declare, addLabel])
    leads _ := Iff.rfl
    frontier _ := Iff.rfl
    bearing _ _ := Iff.rfl }
  refine ⟨hv, vast_valid, by decide, hagrees, ?_, ?_⟩
  · have hok := (Checker.Reached.check_okIfFits .refl hv (.conj (.atom "p") .tt)).resolve_right
      fun hfault => absurd hfault.2 (by decide)
    have hmem : 3 ∈ (outset.bounds (.conj (.atom "p") .tt)).lower :=
      mem_lower_conj.2 ⟨by decide +kernel, mem_states.2 (by decide)⟩
    exact ⟨_, hok, if_pos hmem⟩
  · rintro ⟨b, hb, -⟩
    rw [check_conj_true_eq_error .refl (by decide)] at hb
    cases hb

end System

end BranchingTime
