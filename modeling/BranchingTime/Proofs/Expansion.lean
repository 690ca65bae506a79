/-
Laws of the operators that hold for both bounds, on systems with a frontier too. An until
is its goal, or its condition and a next step to the until; `EG` is its operand, and a next
step to `EG` or a dead end. So what the rules of the iterations say of a single state is what
`EX`, `AX`, conjunction and disjunction say, though these are separate operators with rules
of their own for the frontier and for dead ends (`bounds_eu_expand`, `bounds_eg_expand`).

`AF f` is `A[true U f]`. The core form of the latter forbids one path more, a path that
avoids `f` and then leaves `true`; but nothing leaves `true`, and from the frontier, where
such a path might go out of sight, one that avoids `f` for ever might go as well
(`Below.until_always`). `AX f` is `!EX !f` up to the frontier, which is always in the upper
bound of the one, and in that of the other only where no known successor rules `f` out.
-/
import BranchingTime.Proofs.Congruence
import BranchingTime.Proofs.Soundness
import Mathlib.Tactic.ByContra
import Mathlib.Tactic.Tauto

namespace BranchingTime

theorem Bounds.ext_mem {b d : Bounds} (hlower : ∀ s, s ∈ b.lower ↔ s ∈ d.lower)
    (hupper : ∀ s, s ∈ b.upper ↔ s ∈ d.upper) : b = d := by
  have hl : b.lower = d.lower := Std.ExtTreeSet.ext_mem fun s => hlower s
  have hu : b.upper = d.upper := Std.ExtTreeSet.ext_mem fun s => hupper s
  exact Bounds.mk.injEq .. ▸ ⟨hl, hu⟩

namespace System

variable {sys : System} {f g : Formula} {s : Nat}

/-! ## Disjunction -/

theorem mem_lower_coreDisj (hv : sys.Valid) : s ∈ (sys.bounds (.coreDisj f g)).lower ↔
    s ∈ (sys.bounds f).lower ∨ s ∈ (sys.bounds g).lower := by
  have hf : s ∈ (sys.bounds f).lower → s < sys.size := lt_of_mem_lower hv
  have hg : s ∈ (sys.bounds g).lower → s < sys.size := lt_of_mem_lower hv
  rw [Formula.coreDisj, mem_lower_neg, mem_upper_conj, mem_upper_neg, mem_upper_neg]
  tauto

theorem mem_upper_coreDisj (hv : sys.Valid) : s ∈ (sys.bounds (.coreDisj f g)).upper ↔
    s ∈ (sys.bounds f).upper ∨ s ∈ (sys.bounds g).upper := by
  have hf : s ∈ (sys.bounds f).upper → s < sys.size := lt_of_mem_upper hv
  have hg : s ∈ (sys.bounds g).upper → s < sys.size := lt_of_mem_upper hv
  rw [Formula.coreDisj, mem_upper_neg, mem_lower_conj, mem_lower_neg, mem_lower_neg]
  tauto

/-! ## Laws for the bounds -/

theorem bounds_eu_expand (hv : sys.Valid) (f g : Formula) :
    sys.bounds (.eu f g) = sys.bounds (.coreDisj g (.conj f (.ex (.eu f g)))) := by
  have hne : Formula.eu f g ≠ .tt := nofun
  refine Bounds.ext_mem (fun s => ?_) fun s => ?_
  · rw [mem_lower_coreDisj hv, mem_lower_conj, mem_lower_ex hne, mem_lower_eu]
    refine or_congr_right (and_congr_right fun hs => ?_)
    rw [and_iff_right (lt_of_mem_lower hv hs)]
  · rw [mem_upper_coreDisj hv, mem_upper_conj, mem_upper_ex hne, mem_upper_eu]
    refine or_congr_right (and_congr_right fun hs => ?_)
    rw [and_iff_right (lt_of_mem_upper hv hs), or_comm]

/-- Off the frontier, `AX false` holds in the dead ends. -/
theorem bounds_eg_expand (hv : sys.Valid) (f : Formula) :
    sys.bounds (.eg f) = sys.bounds (.conj f (.coreDisj (.ex (.eg f)) (.ax .ff))) := by
  have hne : Formula.eg f ≠ .tt := nofun
  have hlower : ∀ t, t ∉ (sys.bounds .ff).lower := fun t => Std.ExtTreeSet.not_mem_empty
  have hupper : ∀ t, t ∉ (sys.bounds .ff).upper := fun t => Std.ExtTreeSet.not_mem_empty
  refine Bounds.ext_mem (fun s => ?_) fun s => ?_
  · rw [mem_lower_conj, mem_lower_coreDisj hv, mem_lower_ex hne, mem_lower_ax, mem_lower_eg hv]
    refine and_congr_right fun hs => ?_
    have hlt := lt_of_mem_lower hv hs
    simp only [hlower, imp_false]
    rw [and_iff_right hlt, and_iff_right hlt, and_comm (a := s ∉ sys.frontier)]
  · rw [mem_upper_conj, mem_upper_coreDisj hv, mem_upper_ex hne, mem_upper_ax, mem_upper_eg hv]
    refine and_congr_right fun hs => ?_
    have hlt := lt_of_mem_upper hv hs
    simp only [hupper, imp_false]
    -- both operands of the disjunction have the frontier
    rw [and_iff_right hlt, and_iff_right hlt, or_assoc, or_self_left,
      or_comm (a := s ∈ sys.frontier)]

/-- Both bounds of `f` are inside those of `g`. -/
structure Below (sys : System) (f g : Formula) : Prop where
  lower : (sys.bounds f).lower ⊆ (sys.bounds g).lower
  upper : (sys.bounds f).upper ⊆ (sys.bounds g).upper

/-- An until with a goal inside `EG` of its condition is inside that, too. -/
theorem Below.until_always (hv : sys.Valid) (hg : sys.Below g (.eg f)) :
    sys.Below (.eu f g) (.eg f) where
  lower := by
    refine Rule.forall_mem_least hg.lower fun region hregion t ht hsupports => ?_
    obtain ⟨u, hu, hin⟩ := surelyEnters_iff.1 hsupports
    exact (mem_lower_eg hv).2 ⟨ht, .inl ⟨u, hu, hregion u hin⟩⟩
  upper := by
    refine Rule.forall_mem_least hg.upper fun region hregion t ht hsupports => ?_
    rcases maybeEnters_iff.1 hsupports with hopen | ⟨u, hu, hin⟩
    · exact (mem_upper_eg hv).2 ⟨ht, .inr (.inr hopen)⟩
    · exact (mem_upper_eg hv).2 ⟨ht, .inl ⟨u, hu, hregion u hin⟩⟩

/-- `!true` holds nowhere, and nothing else together with it. -/
theorem below_of_neg_true (f g : Formula) : sys.Below (.conj (.neg .tt) f) g := by
  have hnowhere : ∀ s, ¬(s < sys.size ∧ s ∉ sys.states) := fun s hs => hs.2 (mem_states.2 hs.1)
  exact ⟨fun s hs => absurd (mem_lower_neg.1 (mem_lower_conj.1 hs).1) (hnowhere s),
    fun s hs => absurd (mem_upper_neg.1 (mem_upper_conj.1 hs).1) (hnowhere s)⟩

theorem bounds_conj_neg (h : sys.Below f g) :
    sys.bounds (.conj (.neg f) (.neg g)) = sys.bounds (.neg g) := by
  refine Bounds.ext_mem (fun s => ?_) fun s => ?_
  · have hupper := h.upper s
    rw [mem_lower_conj, mem_lower_neg, mem_lower_neg]
    tauto
  · have hlower := h.lower s
    rw [mem_upper_conj, mem_upper_neg, mem_upper_neg]
    tauto

/-- A known successor outside a region is a state of the system. -/
theorem forall_leads_iff (hv : sys.Valid) {region : Region} :
    (∀ t, sys.Leads s t → t ∈ region) ↔
      ¬∃ t, sys.Leads s t ∧ t < sys.size ∧ t ∉ region := by
  constructor
  · rintro h ⟨t, ht, -, hnot⟩
    exact hnot (h t ht)
  · intro h t ht
    by_contra hnot
    exact h ⟨t, ht, ht.target_lt hv, hnot⟩

theorem lower_ax_eq (hv : sys.Valid) (f : Formula) :
    (sys.bounds (.ax f)).lower = (sys.bounds (.neg (.ex (.neg f)))).lower := by
  have hne : Formula.neg f ≠ .tt := nofun
  refine Std.ExtTreeSet.ext_mem fun s => ?_
  rw [mem_lower_ax, forall_leads_iff hv, mem_lower_neg, mem_upper_ex hne]
  simp only [mem_upper_neg]
  refine and_congr_right fun hs => ?_
  rw [and_iff_right hs, not_or, and_comm]

/-- A state of the frontier is in the upper bound of `AX f`, even if a known successor
rules `f` out. -/
theorem upper_ax_eq (hv : sys.Valid) (f : Formula) :
    (sys.bounds (.ax f)).upper =
      (sys.bounds (.neg (.ex (.neg f)))).upper ∪ sys.frontier := by
  have hne : Formula.neg f ≠ .tt := nofun
  refine Std.ExtTreeSet.ext_mem fun s => ?_
  rw [Std.ExtTreeSet.mem_union_iff, mem_upper_ax, forall_leads_iff hv, mem_upper_neg,
    mem_lower_ex hne]
  simp only [mem_lower_neg]
  constructor
  · rintro ⟨hs, hopen | hnone⟩
    · exact .inr hopen
    · exact .inl ⟨hs, fun h => hnone h.2⟩
  · rintro (⟨hs, hnone⟩ | hopen)
    · exact ⟨hs, .inr fun h => hnone ⟨hs, h⟩⟩
    · exact ⟨hv.frontier hopen, .inl hopen⟩

/-! ## Laws for checks -/

namespace Alike

/-- Neither formula is evaluated unless all states fit into a set. -/
theorem of_fits (hv : sys.Valid) (hf : sys.Affords f → sys.size < setLimit)
    (hg : sys.Affords g → sys.size < setLimit) (hbounds : sys.bounds f = sys.bounds g) :
    sys.Alike f g where
  affords := ⟨fun h => affords_of_fits hv (hf h) g, fun h => affords_of_fits hv (hg h) f⟩
  bounds _ := hbounds

theorem eg_expand (hv : sys.Valid) (f : Formula) :
    sys.Alike (.eg f) (.conj f (.coreDisj (.ex (.eg f)) (.ax .ff))) := by
  refine .of_fits hv And.right ?_ (bounds_eg_expand hv f)
  rintro ⟨-, ⟨⟨⟨hnext, -⟩, -⟩, -⟩, -⟩
  exact (affords_eg hv).1 (hnext.resolve_left nofun)

/-- All paths lead to `f` if none can avoid it; that none leaves `true` first adds nothing. -/
theorem au_true (hv : sys.Valid) (f : Formula) :
    sys.Alike (.neg (.eg (.neg f)))
      (.conj (.neg (.eu (.neg f) (.conj (.neg .tt) (.neg f)))) (.neg (.eg (.neg f)))) := by
  refine .of_fits hv (fun h => (affords_eg hv).1 h.1) (fun h => (affords_eg hv).1 h.2.1) ?_
  exact (bounds_conj_neg (.until_always hv (below_of_neg_true (.neg f) (.eg (.neg f))))).symm

end Alike

/-- The expansion of an until has the until in it. -/
theorem affords_eu_of_expand (h : sys.Affords (.coreDisj g (.conj f (.ex (.eu f g))))) :
    sys.Affords (.eu f g) := by
  obtain ⟨⟨-, ⟨-, hnext, -⟩, -⟩, -⟩ := h
  exact hnext.resolve_left nofun

/-- **Laws of the operators.** Whatever was done before the two checks of a law, they have
the same outcome if the states fit into a set, and that is an answer. If not, this is still
so for `EG` and for `AF`, where both checks break off then. The check of an until can have an
answer where that of its expansion, in which larger sets are built, breaks off; where the
latter has one, the former has the same. In the last law, the two checks have the same lower
bound, and upper bounds that differ by the frontier, or one of them breaks off. -/
theorem check_expansion_laws {c c' : Checker} (hv : sys.Valid) (hc : c.Reached sys)
    (hc' : c'.Reached sys) (f a b : Formula) :
    ((∃ x, ((c.session sys).check (.eu a b)).1 = .ok x ∧
        ((c'.session sys).check (.disj b (.conj a (.ex (.eu a b))))).1 = .ok x) ∨
      ((c'.session sys).check (.disj b (.conj a (.ex (.eu a b))))).1 = .error .capacity ∧
      setLimit ≤ sys.size) ∧
    ((c.session sys).check (.eg f)).1 =
      ((c'.session sys).check (.conj f (.disj (.ex (.eg f)) (.ax .ff)))).1 ∧
    ((c.session sys).check (.af f)).1 = ((c'.session sys).check (.au .tt f)).1 ∧
    ((∃ x y, ((c.session sys).check (.ax f)).1 = .ok x ∧
        ((c'.session sys).check (.neg (.ex (.neg f)))).1 = .ok y ∧
        x.lower = y.lower ∧ x.upper = y.upper ∪ sys.frontier) ∨
      (((c.session sys).check (.ax f)).1 = .error .capacity ∨
        ((c'.session sys).check (.neg (.ex (.neg f)))).1 = .error .capacity) ∧
      setLimit ≤ sys.size) ∧
    (sys.size < setLimit → ∀ g, ∃ x, ((c.session sys).check g).1 = .ok x) := by
  refine ⟨?_, (hc.check_eq_iff_alike hv hc').2 (.eg_expand hv f.toCore),
    (hc.check_eq_iff_alike hv hc').2 (.au_true hv f.toCore), ?_,
    fun hfits g => hc.exists_check_eq_ok hv hfits g⟩
  · have huntil := hc.check_okIf hv (.eu a b)
    have hsame := bounds_eu_expand hv a.toCore b.toCore
    rcases (hc'.check_okIf hv (.disj b (.conj a (.ex (.eu a b))))).affords_or hv with
      ⟨h, hexpanded⟩ | hfault
    · exact .inl ⟨_, huntil.ok (affords_eu_of_expand h), hsame ▸ hexpanded⟩
    · exact .inr hfault
  · rcases hc.check_okIfFits hv (.ax f) with hax | ⟨hfault, hsize⟩
    · rcases hc'.check_okIfFits hv (.neg (.ex (.neg f))) with hdual | ⟨hfault, hsize⟩
      · exact .inl ⟨_, _, hax, hdual, lower_ax_eq hv f.toCore, upper_ax_eq hv f.toCore⟩
      · exact .inr ⟨.inr hfault, hsize⟩
    · exact .inr ⟨.inl hfault, hsize⟩

theorem check_expansion_laws_ring :
    let session := ({} : Checker).session (ring 3)
    (ring 3).Valid ∧ Checker.Reached (ring 3) {} ∧
    (∃ x, (session.check (.eu (.neg (.atom "p")) (.atom "p"))).1 = .ok x ∧
      (session.check (.disj (.atom "p")
        (.conj (.neg (.atom "p")) (.ex (.eu (.neg (.atom "p")) (.atom "p")))))).1 = .ok x) ∧
    (session.check (.eg (.atom "p"))).1 =
      (session.check (.conj (.atom "p") (.disj (.ex (.eg (.atom "p"))) (.ax .ff)))).1 ∧
    (session.check (.af (.atom "p"))).1 = (session.check (.au .tt (.atom "p"))).1 ∧
    ∃ x y, (session.check (.ax (.atom "p"))).1 = .ok x ∧
      (session.check (.neg (.ex (.neg (.atom "p"))))).1 = .ok y ∧
      x.lower = y.lower ∧ x.upper = y.upper ∪ (ring 3).frontier := by
  intro session
  have hv : (ring 3).Valid := violation?_eq_none.1 (by decide +kernel)
  have hfits : ¬setLimit ≤ (ring 3).size := by decide +kernel
  obtain ⟨huntil, halways, hall, hnext, -⟩ :=
    check_expansion_laws hv .refl .refl (.atom "p") (.neg (.atom "p")) (.atom "p")
  exact ⟨hv, .refl, huntil.resolve_right fun hfault => hfits hfault.2, halways, hall,
    hnext.resolve_right fun hfault => hfits hfault.2⟩

/-- The frontier makes a difference: the last state of the circle has a known successor
where `q` fails. -/
example : 2 ∈ ((ring 3).bounds (.ax (.atom "q"))).upper ∧
    2 ∉ ((ring 3).bounds (.neg (.ex (.neg (.atom "q"))))).upper := by decide +kernel

/-- An until inside its goal adds nothing to it. -/
theorem vast_affords_until : vast.Affords (.eu (.atom "p") (.atom "p")) := by
  have hinside : (vast.bounds (.eu (.atom "p") (.atom "p"))).upper ⊆ vast.bearing "p" :=
    Rule.forall_mem_least (Region.subset_refl _) fun _ _ _ ht _ => ht
  have hsize : (vast.bounds (.eu (.atom "p") (.atom "p"))).upper.size ≤ 1 :=
    size_bearing_vast ▸ Region.size_le_of_subset hinside
  have hone : 1 < setLimit := by decide
  exact ⟨⟨trivial, trivial⟩, Nat.lt_of_le_of_lt hsize hone⟩

/-- In a system that is too large, an until has an answer, and its expansion has none. And
neither side of the law for `EG` has one. -/
theorem vast_until_expanded_unanswered :
    let session := ({} : Checker).session vast
    let p : Formula := .atom "p"
    vast.Valid ∧ vast.size < 18446744073709551615 ∧
    (∃ x, (session.check (.eu p p)).1 = .ok x ∧ 3 ∈ x.lower) ∧
    (¬∃ x, (session.check (.disj p (.conj p (.ex (.eu p p))))).1 = .ok x) ∧
    ¬∃ x, (session.check (.eg p)).1 = .ok x := by
  intro session p
  have hc : Checker.Reached vast {} := .refl
  refine ⟨vast_valid, by decide, ⟨_, (hc.check_okIf vast_valid (.eu p p)).ok vast_affords_until,
    ?_⟩, ?_, ?_⟩
  · have hgoal : 3 ∈ vast.bearing "p" := by decide +kernel
    exact mem_lower_eu.2 (.inl hgoal)
  · exact (hc.check_okIf vast_valid (.disj p (.conj p (.ex (.eu p p))))).not_exists
      fun h => vast_not_affords_neg h.1.1
  · exact (hc.check_okIf vast_valid (.eg p)).not_exists fun h => absurd h.2 (by decide)

end System

end BranchingTime
