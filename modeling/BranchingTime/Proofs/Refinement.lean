/-
Exploring further never takes a verdict back. A system refines another one if it
knows all that the other one knows, and more only where the other one left
something open: new states, and new successors of states on the frontier
(`Refines`). The lower bounds of the refined system are larger, and on the states
of the first system its upper bounds are smaller (`Sharpens`).

Again there is one lemma for each operator of the core. The two systems differ in
size, so the iterations start from different regions: the end of the lower
iteration of `EG` on the first system is a self-supporting property on the second
one, and the end of the upper iteration on the second system, cut down to the
first one, supports itself there.
-/
import BranchingTime.Proofs.Building
import BranchingTime.Proofs.Soundness

namespace BranchingTime.System

variable {sys sys' : System} {f g : Formula} {s t : Nat}

/-- The second system is the first one, explored further. -/
structure Refines (sys sys' : System) : Prop where
  size_le : sys.size ≤ sys'.size
  /-- Names label the same states of the first system. -/
  bearing : ∀ {s : Nat} {name : String}, s < sys.size →
    (s ∈ sys'.bearing name ↔ s ∈ sys.bearing name)
  /-- Outside the frontier nothing was left to explore. -/
  explored : ∀ {s : Nat}, s < sys.size → s ∉ sys.frontier → s ∉ sys'.frontier
  same : ∀ {s t : Nat}, s < sys.size → s ∉ sys.frontier → (sys'.Leads s t ↔ sys.Leads s t)
  known : ∀ {s t : Nat}, s ∈ sys.frontier → sys.Leads s t → sys'.Leads s t
  /-- A state that leaves the frontier does so with a successor. -/
  goesOn : ∀ {s : Nat}, s ∈ sys.frontier → s ∈ sys'.frontier ∨ ∃ t, sys'.Leads s t

namespace Refines

theorem leads (h : sys.Refines sys') (hs : s < sys.size) (hst : sys.Leads s t) :
    sys'.Leads s t := by
  by_cases hopen : s ∈ sys.frontier
  · exact h.known hopen hst
  · exact (h.same hs hopen).2 hst

/-- A successor found outside the frontier was known before. -/
theorem leads_back (h : sys.Refines sys') (hv : sys.Valid) (hs : s < sys.size)
    (hopen : s ∉ sys.frontier) (hst : sys'.Leads s t) : sys.Leads s t ∧ t < sys.size := by
  have hst := (h.same hs hopen).1 hst
  exact ⟨hst, hst.target_lt hv⟩

end Refines

/-! ## One operator at a time -/

/-- What is sure of `f` in the first system stays sure in the second one, and what
is ruled out stays ruled out. -/
structure Sharpens (sys sys' : System) (f : Formula) : Prop where
  lower : ∀ {s}, s ∈ (sys.bounds f).lower → s ∈ (sys'.bounds f).lower
  upper : ∀ {s}, s < sys.size → s ∈ (sys'.bounds f).upper → s ∈ (sys.bounds f).upper

namespace Sharpens

theorem tt (h : sys.Refines sys') : sys.Sharpens sys' .tt where
  lower hs := mem_states.2 (Nat.lt_of_lt_of_le (mem_states.1 hs) h.size_le)
  upper hs _ := mem_states.2 hs

theorem atom (hv : sys.Valid) (h : sys.Refines sys') (name : String) :
    sys.Sharpens sys' (.atom name) where
  lower {s} hs := (h.bearing (mem_states.1 (bearing_subset hv name s hs))).2 hs
  upper hs hu := (h.bearing hs).1 hu

/-- Negation turns the bounds round. -/
theorem neg (h : sys.Refines sys') (hf : sys.Sharpens sys' f) : sys.Sharpens sys' (.neg f) where
  lower {s} hs := by
    obtain ⟨hlt, hnot⟩ := mem_lower_neg.1 hs
    have hlt' := Nat.lt_of_lt_of_le hlt h.size_le
    exact mem_lower_neg.2 ⟨hlt', fun hu => hnot (hf.upper hlt hu)⟩
  upper hs hu := mem_upper_neg.2 ⟨hs, fun hl => (mem_upper_neg.1 hu).2 (hf.lower hl)⟩

theorem conj (hf : sys.Sharpens sys' f) (hg : sys.Sharpens sys' g) :
    sys.Sharpens sys' (.conj f g) where
  lower hs := mem_lower_conj.2 ((mem_lower_conj.1 hs).imp hf.lower hg.lower)
  upper hs hu := mem_upper_conj.2 ((mem_upper_conj.1 hu).imp (hf.upper hs) (hg.upper hs))

/-- A state of the frontier has a successor, and keeps one when it is explored. -/
theorem ex_true (hv : sys.Valid) (h : sys.Refines sys') : sys.Sharpens sys' (.ex .tt) where
  lower {s} hs := by
    obtain ⟨hlt, hnext⟩ := mem_bounds_ex_true.1 hs
    refine mem_bounds_ex_true.2 ⟨Nat.lt_of_lt_of_le hlt h.size_le, ?_⟩
    rcases hnext with ⟨t, ht⟩ | hopen
    · exact .inl ⟨t, h.leads hlt ht⟩
    · exact (h.goesOn hopen).symm
  upper {s} hs hu := by
    obtain ⟨-, hnext⟩ := mem_bounds_ex_true.1 hu
    refine mem_bounds_ex_true.2 ⟨hs, ?_⟩
    by_cases hopen : s ∈ sys.frontier
    · exact .inr hopen
    · obtain ⟨t, ht⟩ := hnext.resolve_right (h.explored hs hopen)
      exact .inl ⟨t, (h.leads_back hv hs hopen ht).1⟩

theorem ex (hv : sys.Valid) (h : sys.Refines sys') (hne : f ≠ .tt) (hf : sys.Sharpens sys' f) :
    sys.Sharpens sys' (.ex f) where
  lower {s} hs := by
    obtain ⟨hlt, t, ht, hmem⟩ := (mem_lower_ex hne).1 hs
    have hlt' := Nat.lt_of_lt_of_le hlt h.size_le
    exact (mem_lower_ex hne).2 ⟨hlt', t, h.leads hlt ht, hf.lower hmem⟩
  upper {s} hs hu := by
    obtain ⟨-, hnext⟩ := (mem_upper_ex hne).1 hu
    refine (mem_upper_ex hne).2 ⟨hs, ?_⟩
    by_cases hopen : s ∈ sys.frontier
    · exact .inr hopen
    · obtain ⟨t, ht, hmem⟩ := hnext.resolve_right (h.explored hs hopen)
      obtain ⟨ht, hlt⟩ := h.leads_back hv hs hopen ht
      exact .inl ⟨t, ht, hf.upper hlt hmem⟩

theorem ax (hv : sys.Valid) (h : sys.Refines sys') (hf : sys.Sharpens sys' f) :
    sys.Sharpens sys' (.ax f) where
  lower {s} hs := by
    obtain ⟨hlt, hopen, hall⟩ := mem_lower_ax.1 hs
    have hlt' := Nat.lt_of_lt_of_le hlt h.size_le
    refine mem_lower_ax.2 ⟨hlt', h.explored hlt hopen, fun t ht => ?_⟩
    exact hf.lower (hall t ((h.same hlt hopen).1 ht))
  upper {s} hs hu := by
    obtain ⟨-, hnext⟩ := mem_upper_ax.1 hu
    refine mem_upper_ax.2 ⟨hs, ?_⟩
    by_cases hopen : s ∈ sys.frontier
    · exact .inl hopen
    · have hall := hnext.resolve_left (h.explored hs hopen)
      exact .inr fun t ht => hf.upper (ht.target_lt hv) (hall t (h.leads hs ht))

theorem eg (hv : sys.Valid) (h : sys.Refines sys') (hf : sys.Sharpens sys' f) :
    sys.Sharpens sys' (.eg f) where
  lower {s} hs := by
    have hlt : ∀ t, t ∈ (sys.bounds (.eg f)).lower → t < sys.size :=
      fun t ht => mem_states.1 (Rule.greatest_subset _ _ _ t ht)
    refine Rule.mem_greatest_of_forall (P := fun t => t ∈ (sys.bounds (.eg f)).lower) ?_ ?_ ?_ hs
    · exact fun t ht => mem_states.2 (Nat.lt_of_lt_of_le (hlt t ht) h.size_le)
    · exact fun t ht => hf.lower (Rule.mem_greatest ht).1
    · intro region t hregion ht
      rw [surelyGoesOn_iff]
      rcases surelyGoesOn_iff.1 (Rule.mem_greatest ht).2 with ⟨u, hu, hin⟩ | ⟨hnone, hopen⟩
      · exact .inl ⟨u, h.leads (hlt t ht) hu, hregion u hin⟩
      · refine .inr ⟨fun u hu => hnone u ?_, h.explored (hlt t ht) hopen⟩
        exact (h.same (hlt t ht) hopen).1 hu
  upper {s} hs hu := by
    -- only the part inside the first system supports itself there
    refine Rule.mem_greatest_of_forall
      (P := fun t => t < sys.size ∧ t ∈ (sys'.bounds (.eg f)).upper) ?_ ?_ ?_ ⟨hs, hu⟩
    · exact fun t ht => mem_states.2 ht.1
    · exact fun t ht => hf.upper ht.1 (Rule.mem_greatest ht.2).1
    · rintro region t hregion ⟨hlt, ht⟩
      rw [maybeGoesOn_iff]
      by_cases hopen : t ∈ sys.frontier
      · exact .inr (.inr hopen)
      rcases maybeGoesOn_iff.1 (Rule.mem_greatest ht).2 with ⟨u, hu, hin⟩ | hnone | hopen'
      · obtain ⟨hu, hult⟩ := h.leads_back hv hlt hopen hu
        exact .inl ⟨u, hu, hregion u ⟨hult, hin⟩⟩
      · exact .inr (.inl fun u hu => hnone u (h.leads hlt hu))
      · exact absurd hopen' (h.explored hlt hopen)

theorem eu (hv : sys.Valid) (h : sys.Refines sys') (hf : sys.Sharpens sys' f)
    (hg : sys.Sharpens sys' g) : sys.Sharpens sys' (.eu f g) where
  lower {s} hs := by
    refine Rule.forall_mem_least (P := fun t => t ∈ (sys'.bounds (.eu f g)).lower) ?_ ?_ s hs
    · exact fun t ht => Rule.mem_least.2 (.inl (hg.lower ht))
    · intro region hregion t hmem hsupports
      obtain ⟨u, hu, hin⟩ := surelyEnters_iff.1 hsupports
      have hlt : t < sys.size := lt_of_mem_lower hv hmem
      refine Rule.mem_least.2 (.inr ⟨hf.lower hmem, surelyEnters_iff.2 ?_⟩)
      exact ⟨u, h.leads hlt hu, hregion u hin⟩
  upper {s} hs hu := by
    refine Rule.forall_mem_least
      (P := fun t => t < sys.size → t ∈ (sys.bounds (.eu f g)).upper) ?_ ?_ s hu hs
    · exact fun t ht hlt => Rule.mem_least.2 (.inl (hg.upper hlt ht))
    · intro region hregion t hmem hsupports hlt
      refine Rule.mem_least.2 (.inr ⟨hf.upper hlt hmem, maybeEnters_iff.2 ?_⟩)
      by_cases hopen : t ∈ sys.frontier
      · exact .inl hopen
      · obtain ⟨u, hu, hin⟩ :=
          (maybeEnters_iff.1 hsupports).resolve_left (h.explored hlt hopen)
        obtain ⟨hu, hult⟩ := h.leads_back hv hlt hopen hu
        exact .inr ⟨u, hu, hregion u hin hult⟩

end Sharpens

/-- Bounds get sharper as the exploration goes on. -/
theorem Refines.sharpens (h : sys.Refines sys') (hv : sys.Valid) (f : Formula) :
    sys.Sharpens sys' f := by
  induction f with
  | tt => exact .tt h
  | atom name => exact .atom hv h name
  | neg f ih => exact ih.neg h
  | conj f g ihf ihg => exact ihf.conj ihg
  | ex f ih =>
    by_cases hne : f = .tt
    · subst hne
      exact .ex_true hv h
    · exact ih.ex hv h hne
  | ax f ih => exact ih.ax hv h
  | eg f ih => exact ih.eg hv h
  | eu f g ihf ihg => exact ihf.eu hv h ihg
  | ff | disj _ _ | imp _ _ | iff _ _ | ag _ | ef _ | af _ | au _ _ =>
    exact ⟨fun hs => hs, fun _ hu => hu⟩

/-! ## Checks -/

/-- **Exploring further never revokes a verdict.** Whatever was done on the two
checkers before, the check of a formula on the refined system gives a larger lower
bound, and an upper bound that is smaller on the states of the first system; or
one of the two checks breaks off since the states do not fit into a set. -/
theorem check_sharpens_of_refines {c c' : Checker} (hv : sys.Valid) (hv' : sys'.Valid)
    (h : sys.Refines sys') (hc : c.Reached sys) (hc' : c'.Reached sys') (f : Formula) :
    (∃ b b', ((c.session sys).check f).1 = .ok b ∧ ((c'.session sys').check f).1 = .ok b' ∧
      b.lower ⊆ b'.lower ∧ ∀ s < sys.size, s ∈ b'.upper → s ∈ b.upper) ∨
    (((c.session sys).check f).1 = .error .capacity ∨
      ((c'.session sys').check f).1 = .error .capacity) ∧ setLimit ≤ sys'.size := by
  have hsharpens := h.sharpens hv f.toCore
  rcases hc.check_okIfFits hv f with hok | ⟨hfault, hsize⟩
  · rcases hc'.check_okIfFits hv' f with hok' | ⟨hfault, hsize⟩
    · exact .inl ⟨_, _, hok, hok', fun s hs => hsharpens.lower hs, fun s => hsharpens.upper⟩
    · exact .inr ⟨.inr hfault, hsize⟩
  · exact .inr ⟨.inl hfault, Nat.le_trans hsize h.size_le⟩

/-- One more edge from a state of the frontier refines a system. -/
theorem refines_addEdge (hs : s ∈ sys.frontier) (t : Nat) : sys.Refines (sys.addEdge s t) where
  size_le := Nat.le_refl _
  bearing _ := Iff.rfl
  explored _ hopen := hopen
  same {a b} _ hopen := by
    have hne : a ≠ s := fun he => hopen (he ▸ hs)
    simp [leads_addEdge, hne]
  known _ hab := leads_addEdge.2 (.inl hab)
  goesOn hopen := .inl hopen

theorem check_sharpens_of_refines_ring :
    (ring 3).Valid ∧ ((ring 3).addEdge 2 1).Valid ∧ (ring 3).Refines ((ring 3).addEdge 2 1) ∧
    Checker.Reached (ring 3) {} ∧ Checker.Reached ((ring 3).addEdge 2 1) {} ∧
    ∃ b b', ((({} : Checker).session (ring 3)).check (.eg (.ef (.atom "p")))).1 = .ok b ∧
      ((({} : Checker).session ((ring 3).addEdge 2 1)).check (.eg (.ef (.atom "p")))).1 = .ok b' ∧
      b.lower ⊆ b'.lower ∧ ∀ s < (ring 3).size, s ∈ b'.upper → s ∈ b.upper := by
  have hv : (ring 3).Valid := violation?_eq_none.1 (by decide +kernel)
  have hv' : ((ring 3).addEdge 2 1).Valid := violation?_eq_none.1 (by decide +kernel)
  have h : (ring 3).Refines ((ring 3).addEdge 2 1) := refines_addEdge (by decide +kernel) 1
  have hfits : ¬setLimit ≤ ((ring 3).addEdge 2 1).size := by decide +kernel
  refine ⟨hv, hv', h, .refl, .refl, ?_⟩
  exact (check_sharpens_of_refines hv hv' h .refl .refl (.eg (.ef (.atom "p")))).resolve_right
    fun hfault => hfits hfault.2

/-! ## Systems that grow too large -/

/-- The first states of the system `vast`. -/
def outset : System := ofSteps 4 [.label "p" 3]

theorem outset_refines_vast : outset.Refines vast where
  size_le := by decide
  bearing _ := Iff.rfl
  explored {s} _ _ := not_mem_frontier_vast s
  same _ _ := Iff.rfl
  known hs := absurd hs Std.ExtTreeSet.not_mem_empty
  goesOn hs := absurd hs Std.ExtTreeSet.not_mem_empty

/-- What was sure of a few states is not answered any more once the system has
grown too large. -/
theorem vast_revokes_verdict :
    outset.Valid ∧ vast.Valid ∧ outset.Refines vast ∧ vast.size < 18446744073709551615 ∧
    (∃ b, ((({} : Checker).session outset).check (.conj (.atom "p") .tt)).1 = .ok b ∧
      3 ∈ b.lower) ∧
    ¬∃ b, ((({} : Checker).session vast).check (.conj (.atom "p") .tt)).1 = .ok b ∧
      3 ∈ b.lower := by
  have hv : outset.Valid := violation?_eq_none.1 (by decide +kernel)
  refine ⟨hv, vast_valid, outset_refines_vast, by decide, ?_, ?_⟩
  · have hchecker : Checker.Reached outset {} := .refl
    have hok := (hchecker.check_okIfFits hv (.conj (.atom "p") .tt)).resolve_right
      fun hfault => absurd hfault.2 (by decide)
    have hbearing : 3 ∈ outset.bearing "p" := by decide +kernel
    exact ⟨_, hok, mem_lower_conj.2 ⟨hbearing, mem_states.2 (by decide)⟩⟩
  · rintro ⟨b, hb, -⟩
    rw [check_conj_true_eq_error .refl (by decide)] at hb
    cases hb

end BranchingTime.System
