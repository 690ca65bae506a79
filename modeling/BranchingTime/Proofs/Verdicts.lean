/-
The propositional connectives on single states. What a check says of a state is one of
three verdicts, and the verdict of a connective is that of strong Kleene logic: it is
decided exactly if all ways to decide the operands agree on it (`Verdict.map`,
`Verdict.map₂`).

Only negation and conjunction are evaluated. Negation complements the bounds inside the
system and turns them round; as the bounds of its operand are in order and inside the
system, it turns every verdict round (`verdict_neg`), and twice brings the bounds back
(`bounds_neg_neg`). The other connectives follow from their core forms, by the tables of
the two.

A complement is a set that has to be built. So on a system with too many states a negation
can be without a verdict where its operand has one, and so can every connective whose core
form has negations in it. A conjunction cannot.
-/
import BranchingTime.Proofs.Expansion

namespace BranchingTime

open FormulaFile

/-! ## Strong Kleene logic -/

/-- The truth table of a connective. -/
def FormulaFile.Binary.truth : Binary → Bool → Bool → Bool
  | conj, x, y => x && y
  | disj, x, y => x || y
  | imp, x, y => !x || y
  | iff, x, y => x == y

namespace Verdict

variable {v w : Verdict}

/-- The truth values that a verdict leaves open. -/
def possible : Verdict → List Bool
  | holds => [true]
  | fails => [false]
  | undecided => [true, false]

/-- The verdict on a truth value that is one of these. -/
def ofPossible (values : List Bool) : Verdict :=
  if values.all (· = true) then holds else if values.all (· = false) then fails else undecided

/-- The verdict on `op x`, given that on `x`. -/
def map (op : Bool → Bool) (v : Verdict) : Verdict := ofPossible (v.possible.map op)

/-- The verdict on `op x y`, given those on `x` and on `y`. -/
def map₂ (op : Bool → Bool → Bool) (v w : Verdict) : Verdict :=
  ofPossible (v.possible.flatMap fun x => w.possible.map (op x))

/-- One operand can decide a connective alone, except an equivalence. -/
example : map₂ Binary.conj.truth undecided fails = fails ∧
    map₂ Binary.disj.truth undecided holds = holds ∧
    map₂ Binary.imp.truth fails undecided = holds ∧
    ∀ v, map₂ Binary.iff.truth undecided v = undecided := by
  refine ⟨rfl, rfl, rfl, fun v => ?_⟩
  cases v <;> rfl

/-- A verdict is known from when it is sure. -/
theorem eq_of_sure (hholds : v = holds ↔ w = holds) (hfails : v = fails ↔ w = fails) : v = w := by
  cases v <;> cases w <;> simp_all

theorem map_not_eq_holds_iff : v.map not = holds ↔ v = fails := by
  cases v <;> decide

theorem map_not_eq_fails_iff : v.map not = fails ↔ v = holds := by
  cases v <;> decide

theorem map₂_conj_eq_holds_iff : map₂ Binary.conj.truth v w = holds ↔ v = holds ∧ w = holds := by
  cases v <;> cases w <;> decide

theorem map₂_conj_eq_fails_iff : map₂ Binary.conj.truth v w = fails ↔ v = fails ∨ w = fails := by
  cases v <;> cases w <;> decide

/-- Disjunction by negation and conjunction. -/
theorem map₂_disj (v w : Verdict) :
    map₂ Binary.disj.truth v w = (map₂ Binary.conj.truth (v.map not) (w.map not)).map not := by
  cases v <;> cases w <;> rfl

theorem map₂_imp (v w : Verdict) :
    map₂ Binary.imp.truth v w = map₂ Binary.disj.truth (v.map not) w := by
  cases v <;> cases w <;> rfl

/-- Each operand occurs twice here, and still nothing is lost. -/
theorem map₂_iff (v w : Verdict) : map₂ Binary.iff.truth v w =
    map₂ Binary.conj.truth (map₂ Binary.imp.truth v w) (map₂ Binary.imp.truth w v) := by
  cases v <;> cases w <;> rfl

end Verdict

/-! ## Verdicts from bounds -/

theorem Bounds.verdict_eq_holds_iff {b : Bounds} {s : Nat} :
    b.verdict s = .holds ↔ s ∈ b.lower := by
  rw [verdict]
  split
  next hlower => simp [hlower]
  next hlower => split <;> simp [hlower]

theorem Bounds.verdict_eq_fails_iff {b : Bounds} {s : Nat} (h : b.lower ⊆ b.upper) :
    b.verdict s = .fails ↔ s ∉ b.upper := by
  rw [verdict]
  split
  next hlower => simp [h s hlower]
  next hlower => split <;> simp [*]

namespace System

variable {sys : System} {f g : Formula} {s : Nat}

theorem verdict_eq_fails_iff (hv : sys.Valid) :
    (sys.bounds f).verdict s = .fails ↔ s ∉ (sys.bounds f).upper :=
  Bounds.verdict_eq_fails_iff (bounds_within hv f).ordered

/-- Negation turns verdicts round. -/
theorem verdict_neg (hv : sys.Valid) (hs : s < sys.size) :
    (sys.bounds (.neg f)).verdict s = ((sys.bounds f).verdict s).map not := by
  refine Verdict.eq_of_sure ?_ ?_
  · rw [Verdict.map_not_eq_holds_iff, Bounds.verdict_eq_holds_iff, verdict_eq_fails_iff hv,
      mem_lower_neg, and_iff_right hs]
  · rw [Verdict.map_not_eq_fails_iff, Bounds.verdict_eq_holds_iff, verdict_eq_fails_iff hv,
      mem_upper_neg, and_iff_right hs, Classical.not_not]

theorem verdict_conj (hv : sys.Valid) : (sys.bounds (.conj f g)).verdict s =
    .map₂ Binary.conj.truth ((sys.bounds f).verdict s) ((sys.bounds g).verdict s) := by
  refine Verdict.eq_of_sure ?_ ?_
  · rw [Verdict.map₂_conj_eq_holds_iff, Bounds.verdict_eq_holds_iff, Bounds.verdict_eq_holds_iff,
      Bounds.verdict_eq_holds_iff, mem_lower_conj]
  · rw [Verdict.map₂_conj_eq_fails_iff, verdict_eq_fails_iff hv, verdict_eq_fails_iff hv,
      verdict_eq_fails_iff hv, mem_upper_conj, Classical.not_and_iff_not_or_not]

theorem verdict_coreDisj (hv : sys.Valid) (hs : s < sys.size) :
    (sys.bounds (.coreDisj f g)).verdict s =
      .map₂ Binary.disj.truth ((sys.bounds f).verdict s) ((sys.bounds g).verdict s) := by
  rw [Formula.coreDisj, verdict_neg hv hs, verdict_conj hv, verdict_neg hv hs, verdict_neg hv hs,
    Verdict.map₂_disj]

theorem verdict_coreImp (hv : sys.Valid) (hs : s < sys.size) :
    (sys.bounds (.coreImp f g)).verdict s =
      .map₂ Binary.imp.truth ((sys.bounds f).verdict s) ((sys.bounds g).verdict s) := by
  rw [Formula.coreImp, verdict_coreDisj hv hs, verdict_neg hv hs, Verdict.map₂_imp]

/-- The core form of every connective has the verdict of its truth table. -/
theorem verdict_binary (hv : sys.Valid) (hs : s < sys.size) (op : Binary) (f g : Formula) :
    (sys.bounds (op.apply f g).toCore).verdict s =
      .map₂ op.truth ((sys.bounds f.toCore).verdict s) ((sys.bounds g.toCore).verdict s) := by
  cases op with
  | conj => exact verdict_conj hv
  | disj => exact verdict_coreDisj hv hs
  | imp => exact verdict_coreImp hv hs
  | iff =>
    rw [Binary.apply, Formula.toCore, verdict_conj hv, verdict_coreImp hv hs,
      verdict_coreImp hv hs, Verdict.map₂_iff]

/-- Where a connective is evaluated, both operands are. -/
theorem affords_of_binary (op : Binary) {f g : Formula}
    (h : sys.Affords (op.apply f g).toCore) :
    sys.Affords f.toCore ∧ sys.Affords g.toCore := by
  have himp : ∀ {f g : Formula}, sys.Affords (.coreImp f g) → sys.Affords f ∧ sys.Affords g := by
    rintro f g ⟨⟨⟨⟨hf, -⟩, -⟩, hg, -⟩, -⟩
    exact ⟨hf, hg⟩
  cases op with
  | conj => exact h
  | disj =>
    obtain ⟨⟨⟨hf, -⟩, hg, -⟩, -⟩ := h
    exact ⟨hf, hg⟩
  | imp => exact himp h
  | iff => exact himp h.1

/-- The complement of the complement is what is there inside the system. -/
theorem bounds_neg_neg (hv : sys.Valid) (f : Formula) :
    sys.bounds (.neg (.neg f)) = sys.bounds f := by
  refine Bounds.ext_mem (fun s => ?_) fun s => ?_
  · have hlt : s ∈ (sys.bounds f).lower → s < sys.size := lt_of_mem_lower hv
    rw [mem_lower_neg, mem_upper_neg]
    tauto
  · have hlt : s ∈ (sys.bounds f).upper → s < sys.size := lt_of_mem_upper hv
    rw [mem_upper_neg, mem_lower_neg]
    tauto

end System

/-! ## Checks -/

/-- What a check says of one state. -/
def Session.verdict (session : Session) (f : Formula) (s : Nat) : Except Fault Verdict := do
  return (← (session.check f).1).verdict s

namespace Checker

variable {sys : System} {c : Checker}

theorem Reached.verdict_okIf (h : c.Reached sys) (hv : sys.Valid) (f : Formula) (s : Nat) :
    System.OkIf (sys.Affords f.toCore) ((c.session sys).verdict f s)
      ((sys.bounds f.toCore).verdict s) :=
  (h.check_okIf hv f).bind_ok rfl

end Checker

namespace System

variable {sys : System} {s : Nat}

/-- **Connectives act on verdicts as in strong Kleene logic.** Whatever was done before each
of the checks, if a connective has a verdict, then so have the operands, and it is that of the
truth table, applied to theirs; a double negation has the same bounds as its operand, if any.
It has none only if the states do not fit into a set. And for a conjunction, only if an
operand has none. -/
theorem check_verdict_eq_kleene (hv : sys.Valid) (hs : s < sys.size) (f g : Formula) :
    ∀ c d e : Checker, c.Reached sys → d.Reached sys → e.Reached sys →
      ((∃ v, (d.session sys).verdict f s = .ok v ∧
          (c.session sys).verdict (.neg f) s = .ok (v.map not)) ∨
        (c.session sys).verdict (.neg f) s = .error .capacity ∧ setLimit ≤ sys.size) ∧
      (∀ op : Binary, (∃ v w, (d.session sys).verdict f s = .ok v ∧
          (e.session sys).verdict g s = .ok w ∧
          (c.session sys).verdict (op.apply f g) s = .ok (.map₂ op.truth v w)) ∨
        (c.session sys).verdict (op.apply f g) s = .error .capacity ∧ setLimit ≤ sys.size) ∧
      (c.session sys).verdict (.conj f g) s = (do
        let v ← (d.session sys).verdict f s
        let w ← (e.session sys).verdict g s
        return .map₂ Binary.conj.truth v w) ∧
      ((∃ b, ((d.session sys).check f).1 = .ok b ∧
          ((c.session sys).check (.neg (.neg f))).1 = .ok b) ∨
        ((c.session sys).check (.neg (.neg f))).1 = .error .capacity ∧ setLimit ≤ sys.size) := by
  intro c d e hc hd he
  have hf := hd.verdict_okIf hv f s
  have hg := he.verdict_okIf hv g s
  refine ⟨?_, fun op => ?_, ?_, ?_⟩
  · have hneg := hc.verdict_okIf hv (.neg f) s
    rw [Formula.toCore, verdict_neg hv hs] at hneg
    rcases hneg.affords_or hv with ⟨h, hok⟩ | hfault
    · exact .inl ⟨_, hf.ok h.1, hok⟩
    · exact .inr hfault
  · have hop := hc.verdict_okIf hv (op.apply f g) s
    rw [verdict_binary hv hs] at hop
    rcases hop.affords_or hv with ⟨h, hok⟩ | hfault
    · obtain ⟨haf, hag⟩ := affords_of_binary op h
      exact .inl ⟨_, _, hf.ok haf, hg.ok hag, hok⟩
    · exact .inr hfault
  · have hconj := hc.verdict_okIf hv (.conj f g) s
    rw [Formula.toCore, verdict_conj hv] at hconj
    exact hconj.unique (hf.bind (hg.bind_ok rfl))
  · have hdouble := hc.check_okIf hv (.neg (.neg f))
    rw [Formula.toCore, Formula.toCore, bounds_neg_neg hv] at hdouble
    rcases hdouble.affords_or hv with ⟨h, hok⟩ | hfault
    · exact .inl ⟨_, (hd.check_okIf hv f).ok h.1.1, hok⟩
    · exact .inr hfault

/-- In the only state of this system `EX p` is undecided, which `true` makes up for in a
disjunction and not in an equivalence. -/
theorem check_verdict_eq_kleene_singleFrontier :
    let session := ({} : Checker).session singleFrontier
    let f : Formula := .ex (.atom "p")
    singleFrontier.Valid ∧ 0 < singleFrontier.size ∧ Checker.Reached singleFrontier {} ∧
    session.verdict f 0 = .ok .undecided ∧ session.verdict .tt 0 = .ok .holds ∧
    session.verdict (.neg f) 0 = .ok .undecided ∧ session.verdict (.disj f .tt) 0 = .ok .holds ∧
    session.verdict (.iff f .tt) 0 = .ok .undecided ∧
    ∃ b, (session.check f).1 = .ok b ∧ (session.check (.neg (.neg f))).1 = .ok b := by
  intro session f
  have hv : singleFrontier.Valid := violation?_eq_none.1 (by decide +kernel)
  have hs : 0 < singleFrontier.size := by decide
  have hc : Checker.Reached singleFrontier {} := .refl
  have hfits : singleFrontier.size < setLimit := by decide
  have hverdict : ∀ k, session.verdict k 0 = .ok ((singleFrontier.bounds k.toCore).verdict 0) :=
    fun k => (hc.verdict_okIf hv k 0).ok (affords_of_fits hv hfits _)
  have hf : session.verdict f 0 = .ok .undecided :=
    (hverdict f).trans (congrArg Except.ok (by decide +kernel))
  have htrue : session.verdict .tt 0 = .ok .holds :=
    (hverdict .tt).trans (congrArg Except.ok (by decide +kernel))
  obtain ⟨hneg, hop, -, hdouble⟩ := check_verdict_eq_kleene hv hs f .tt {} {} {} hc hc hc
  have hbinary : ∀ op : Binary, session.verdict (op.apply f .tt) 0 =
      .ok (.map₂ op.truth .undecided .holds) := by
    intro op
    obtain ⟨v, w, hv', hw, hvw⟩ := (hop op).resolve_right fun h => Nat.not_lt.2 h.2 hfits
    cases hf.symm.trans hv'
    cases htrue.symm.trans hw
    exact hvw
  obtain ⟨v, hv', hneg⟩ := hneg.resolve_right fun h => Nat.not_lt.2 h.2 hfits
  cases hf.symm.trans hv'
  exact ⟨hv, hs, hc, hf, htrue, hneg, hbinary .disj, hbinary .iff,
    hdouble.resolve_right fun h => Nat.not_lt.2 h.2 hfits⟩

/-- In a system that is too large, `p` has a verdict on a state where neither `!p` nor
`p && true` has one, and `p` has bounds where `!!p` has none. -/
theorem vast_negation_unanswered :
    let session := ({} : Checker).session vast
    let p : Formula := .atom "p"
    vast.Valid ∧ vast.size < 18446744073709551615 ∧ 3 < vast.size ∧
    session.verdict p 3 = .ok .holds ∧ (∃ b, (session.check p).1 = .ok b) ∧
    (¬∃ v, session.verdict (.neg p) 3 = .ok v) ∧
    (¬∃ v, session.verdict (.conj p .tt) 3 = .ok v) ∧
    ¬∃ b, (session.check (.neg (.neg p))).1 = .ok b := by
  intro session p
  have hc : Checker.Reached vast {} := .refl
  have hgoal : 3 ∈ (vast.bounds p).lower := by decide +kernel
  have hverdict := (hc.verdict_okIf vast_valid p 3).ok trivial
  rw [Formula.toCore, Bounds.verdict_eq_holds_iff.2 hgoal] at hverdict
  refine ⟨vast_valid, by decide, by decide, hverdict, ⟨_, (hc.check_okIf vast_valid p).ok trivial⟩,
    ?_, ?_, ?_⟩
  · exact (hc.verdict_okIf vast_valid (.neg p) 3).not_exists vast_not_affords_neg
  · exact (hc.verdict_okIf vast_valid (.conj p .tt) 3).not_exists fun h => absurd h.2 (by decide)
  · exact (hc.check_okIf vast_valid (.neg (.neg p))).not_exists fun h => vast_not_affords_neg h.1

end System

end BranchingTime
