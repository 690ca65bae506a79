/-
Equals for equals. Two formulas whose checks have the same outcome can be put in place of
one another in every formula. There is one exception, and it is a matter of syntax: `EX`
knows the formula `true` when it sees it, and finds a successor for every state of the
frontier, while any other formula that holds everywhere leaves such a state open.

The outcome of a check is that of the core form, so outcomes are compared there (`Alike`):
both evaluations break off, or both give the same bounds. That is kept by every operator of
the core, and thus by the core forms of all operators, however often these repeat an
operand. And since no formula but `true` has the core form `true`, the exception cannot
come up behind an operator.
-/
import BranchingTime.FormulaFile.Parser
import BranchingTime.Proofs.Checker
import BranchingTime.Proofs.CoreForm
import BranchingTime.System.Build

namespace BranchingTime

open FormulaFile

namespace System

variable {sys : System} {f f' g g' : Formula} {α : Type}

/-! ## Core formulas with the same outcome -/

theorem OkIf.eq_iff {p q : Prop} {x y : Except Fault α} {a b : α} (hx : OkIf p x a)
    (hy : OkIf q y b) : x = y ↔ (p ↔ q) ∧ (p → a = b) := by
  by_cases hp : p <;> by_cases hq : q
  · simp [hx.ok hp, hy.ok hq, hp, hq]
  · simp [hx.ok hp, hy.error hq, hp, hq]
  · simp [hx.error hp, hy.ok hq, hp, hq]
  · simp [hx.error hp, hy.error hq, hp, hq]

/-- Both evaluations break off, or both give the same bounds. -/
structure Alike (sys : System) (f g : Formula) : Prop where
  affords : sys.Affords f ↔ sys.Affords g
  bounds : sys.Affords f → sys.bounds f = sys.bounds g

namespace Alike

theorem refl (sys : System) (f : Formula) : sys.Alike f f := ⟨Iff.rfl, fun _ => rfl⟩

/-- What the operands afford is the same, the bounds depend on theirs only, and whether
these fit depends on nothing else. -/
theorem of_operands {k k' : Formula} {p p' : Prop} (fits : Bounds → Prop)
    (hk : sys.Affords k ↔ p ∧ fits (sys.bounds k))
    (hk' : sys.Affords k' ↔ p' ∧ fits (sys.bounds k')) (hp : p ↔ p')
    (hbounds : p → sys.bounds k = sys.bounds k') : sys.Alike k k' where
  affords := by
    rw [hk, hk']
    constructor
    · rintro ⟨h, hfits⟩
      exact ⟨hp.1 h, hbounds h ▸ hfits⟩
    · rintro ⟨h, hfits⟩
      exact ⟨hp.2 h, hbounds (hp.2 h) ▸ hfits⟩
  bounds h := hbounds (hk.1 h).1

theorem neg (h : sys.Alike f g) : sys.Alike (.neg f) (.neg g) := by
  refine of_operands Bounds.Fits Iff.rfl Iff.rfl h.affords fun hf => ?_
  simp only [System.bounds, h.bounds hf]

theorem conj (hf : sys.Alike f f') (hg : sys.Alike g g') :
    sys.Alike (.conj f g) (.conj f' g') := by
  refine of_operands (fun _ => True) (iff_of_eq (and_true _)).symm (iff_of_eq (and_true _)).symm
    (and_congr hf.affords hg.affords) fun h => ?_
  simp only [System.bounds, hf.bounds h.1, hg.bounds h.2]

/-- The successors of a state are compared with the bounds of the operand, unless that is
`true`. -/
theorem ex (hf : f ≠ .tt) (hg : g ≠ .tt) (h : sys.Alike f g) : sys.Alike (.ex f) (.ex g) := by
  refine of_operands Bounds.Fits Iff.rfl Iff.rfl ?_ fun hfirst => ?_
  · rw [or_iff_right hf, or_iff_right hg, h.affords]
  · rw [bounds_ex hf, bounds_ex hg, h.bounds (hfirst.resolve_left hf)]

theorem ax (h : sys.Alike f g) : sys.Alike (.ax f) (.ax g) := by
  refine of_operands Bounds.Fits Iff.rfl Iff.rfl h.affords fun hf => ?_
  simp only [System.bounds, h.bounds hf]

theorem eg (h : sys.Alike f g) : sys.Alike (.eg f) (.eg g) := by
  refine of_operands (fun _ => sys.size < setLimit) Iff.rfl Iff.rfl h.affords fun hf => ?_
  simp only [System.bounds, h.bounds hf]

theorem eu (hf : sys.Alike f f') (hg : sys.Alike g g') : sys.Alike (.eu f g) (.eu f' g') := by
  refine of_operands Bounds.Fits Iff.rfl Iff.rfl (and_congr hf.affords hg.affords) fun h => ?_
  simp only [System.bounds, hf.bounds h.1, hg.bounds h.2]

theorem coreDisj (hf : sys.Alike f f') (hg : sys.Alike g g') :
    sys.Alike (.coreDisj f g) (.coreDisj f' g') :=
  (hf.neg.conj hg.neg).neg

theorem coreImp (hf : sys.Alike f f') (hg : sys.Alike g g') :
    sys.Alike (.coreImp f g) (.coreImp f' g') :=
  hf.neg.coreDisj hg

end Alike

end System

namespace Checker

variable {sys : System} {c c' : Checker} {f g : Formula}

/-- Whatever was done on two checkers before, two formulas have the same outcome on them
exactly if their core forms are alike. -/
theorem Reached.check_eq_iff_alike (hv : sys.Valid) (hc : c.Reached sys) (hc' : c'.Reached sys) :
    ((c.session sys).check f).1 = ((c'.session sys).check g).1 ↔
      sys.Alike f.toCore g.toCore := by
  rw [(hc.check_okIf hv f).eq_iff (hc'.check_okIf hv g)]
  exact ⟨fun h => ⟨h.1, h.2⟩, fun h => ⟨h.affords, h.bounds⟩⟩

end Checker

/-! ## Contexts -/

namespace Formula

variable {f : Formula}

/-- A formula with one hole in it. -/
inductive Context where
  | hole
  | unary (op : Unary) (C : Context)
  | left (op : Binary) (C : Context) (g : Formula)
  | right (op : Binary) (f : Formula) (C : Context)
  /-- The hole is before the `U`. -/
  | leftUntil (q : Quantifier) (C : Context) (g : Formula)
  /-- The hole is after the `U`. -/
  | rightUntil (q : Quantifier) (f : Formula) (C : Context)

namespace Context

/-- The formula with `f` in the hole. -/
def fill : Context → Formula → Formula
  | hole, f => f
  | unary op C, f => op.apply (C.fill f)
  | left op C g, f => op.apply (C.fill f) g
  | right op g C, f => op.apply g (C.fill f)
  | leftUntil q C g, f => q.apply (C.fill f) g
  | rightUntil q g C, f => q.apply g (C.fill f)

/-- No context makes `true` of another formula. -/
theorem fill_ne_tt (h : f ≠ .tt) (C : Context) : C.fill f ≠ .tt := by
  cases C with
  | hole => exact h
  | unary op C => cases op <;> exact nofun
  | left op C g | right op g C => cases op <;> exact nofun
  | leftUntil q C g | rightUntil q g C => cases q <;> exact nofun

end Context

end Formula

namespace System

variable {sys : System} {f f' g g' : Formula}

namespace Alike

theorem unary (op : Unary) (hf : f ≠ .tt) (hg : g ≠ .tt) (h : sys.Alike f.toCore g.toCore) :
    sys.Alike (op.apply f).toCore (op.apply g).toCore := by
  cases op with
  | neg => exact h.neg
  | ex => exact h.ex (Formula.toCore_ne_tt hf) (Formula.toCore_ne_tt hg)
  | ax => exact h.ax
  | eg => exact h.eg
  | ag => exact ((refl sys .tt).eu h.neg).neg
  | ef => exact (refl sys .tt).eu h
  | af => exact h.neg.eg.neg

theorem binary (op : Binary) (hf : sys.Alike f.toCore f'.toCore)
    (hg : sys.Alike g.toCore g'.toCore) :
    sys.Alike (op.apply f g).toCore (op.apply f' g').toCore := by
  cases op with
  | conj => exact hf.conj hg
  | disj => exact hf.coreDisj hg
  | imp => exact hf.coreImp hg
  | iff => exact (hf.coreImp hg).conj (hg.coreImp hf)

theorem path (q : Quantifier) (hf : sys.Alike f.toCore f'.toCore)
    (hg : sys.Alike g.toCore g'.toCore) :
    sys.Alike (q.apply f g).toCore (q.apply f' g').toCore := by
  cases q with
  | some => exact hf.eu hg
  | every => exact (hg.neg.eu (hf.neg.conj hg.neg)).neg.conj hg.neg.eg.neg

theorem fill (C : Formula.Context) (hf : f ≠ .tt) (hg : g ≠ .tt)
    (h : sys.Alike f.toCore g.toCore) : sys.Alike (C.fill f).toCore (C.fill g).toCore := by
  induction C with
  | hole => exact h
  | unary op C ih => exact ih.unary op (C.fill_ne_tt hf) (C.fill_ne_tt hg)
  | left op C k ih => exact ih.binary op (refl sys k.toCore)
  | right op k C ih => exact (refl sys k.toCore).binary op ih
  | leftUntil q C k ih => exact ih.path q (refl sys k.toCore)
  | rightUntil q k C ih => exact (refl sys k.toCore).path q ih

end Alike

/-- **Checks are compositional.** If the checks of two formulas other than `true` have the
same outcome, then so have those of any formula around the one and around the other,
whatever was done before each of the four checks. On a system whose states fit into a set,
that outcome is an answer. -/
theorem check_fill_eq_of_check_eq {c c' : Checker} (hv : sys.Valid) (hc : c.Reached sys)
    (hc' : c'.Reached sys) (hf : f ≠ .tt) (hg : g ≠ .tt)
    (h : ((c.session sys).check f).1 = ((c'.session sys).check g).1) (C : Formula.Context) :
    ∀ d d' : Checker, d.Reached sys → d'.Reached sys →
      ((d.session sys).check (C.fill f)).1 = ((d'.session sys).check (C.fill g)).1 ∧
      (sys.size < setLimit → ∃ b, ((d.session sys).check (C.fill f)).1 = .ok b) := by
  intro d d' hd hd'
  have halike : sys.Alike f.toCore g.toCore := (hc.check_eq_iff_alike hv hc').1 h
  refine ⟨?_, fun hfits => hd.exists_check_eq_ok hv hfits (C.fill f)⟩
  exact (hd.check_eq_iff_alike hv hd').2 (halike.fill C hf hg)

theorem check_fill_eq_of_check_eq_ring :
    let f : Formula := .disj (.atom "p") (.neg (.atom "p"))
    let C : Formula.Context := .leftUntil .every (.unary .ex .hole) (.atom "p")
    let session := ({} : Checker).session (ring 3)
    (ring 3).Valid ∧ Checker.Reached (ring 3) {} ∧ f ≠ .tt ∧ Formula.neg .ff ≠ .tt ∧
    (session.check f).1 = (session.check (.neg .ff)).1 ∧
    ∃ b, (session.check (C.fill f)).1 = .ok b ∧ (session.check (C.fill (.neg .ff))).1 = .ok b := by
  intro f C session
  have hv : (ring 3).Valid := violation?_eq_none.1 (by decide +kernel)
  have hfits : (ring 3).size < setLimit := by decide +kernel
  have hc : Checker.Reached (ring 3) {} := .refl
  have hf : f ≠ .tt := nofun
  have hg : Formula.neg .ff ≠ .tt := nofun
  have hsame : (session.check f).1 = (session.check (.neg .ff)).1 := by
    refine (hc.check_eq_iff_alike hv hc).2 ⟨?_, fun _ => ?_⟩
    · exact iff_of_true (affords_of_fits hv hfits _) (affords_of_fits hv hfits _)
    · decide +kernel
  obtain ⟨hfill, hanswer⟩ := check_fill_eq_of_check_eq hv hc hc hf hg hsame C {} {} hc hc
  obtain ⟨b, hb⟩ := hanswer hfits
  exact ⟨hv, hc, hf, hg, hsame, b, hb, hfill ▸ hb⟩

/-- The formula `true` is different: `!false` has the same bounds, but not behind `EX`. -/
example : singleFrontier.bounds .tt = singleFrontier.bounds (.neg .ff) ∧
    singleFrontier.bounds (.ex .tt) ≠ singleFrontier.bounds (.ex (.neg .ff)) := by decide +kernel

end System

end BranchingTime
