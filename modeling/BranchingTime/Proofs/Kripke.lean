/-
Kripke structures, and computation tree logic over their maximal paths. A
maximal path goes on for ever, or ends in a state without successors; every
temporal operator speaks of some or of all such paths from a state (`Sat`).

The checker works by fixpoints, so the operators of the core are brought into
that form: `EG` is the largest property that can always go on, or end in a dead
end (`Sat.eg_inv`, `Sat.eg_of_forall`), and the until is the smallest that
contains its goal and is closed under steps back (`Sat.eu_of_next`,
`Sat.eu_induction`). The other seven operators are expressed by the core
(`sat_toCore`); for `A[f U g]` the two halves of the core form are taken apart
path by path, by the first position where `g` holds.
-/
import BranchingTime.Formula.Core
import Mathlib.Data.Nat.Find
import Mathlib.Tactic.ByContra
import Mathlib.Tactic.Tauto

namespace BranchingTime

universe u

/-- A Kripke structure. Its states can be of any type, finite or not. -/
structure Kripke (σ : Type u) where
  /-- The second state is a successor of the first. -/
  next : σ → σ → Prop
  /-- The state bears the proposition of this name. -/
  bears : σ → String → Prop

namespace Kripke

variable {σ : Type u} {K : Kripke σ} {s t : σ} {f g : Formula}

def DeadEnd (K : Kripke σ) (s : σ) : Prop := ∀ t, ¬K.next s t

/-- A maximal path from `s`: a state for every position up to its end, if it has
one. It ends in a dead end only. -/
structure Path (K : Kripke σ) (s : σ) where
  state : Nat → Option σ
  start : state 0 = some s
  ended : ∀ {n}, state n = none → state (n + 1) = none
  step : ∀ {n a b}, state n = some a → state (n + 1) = some b → K.next a b
  maximal : ∀ {n a}, state n = some a → state (n + 1) = none → K.DeadEnd a

namespace Path

/-- At all positions of the path. -/
def Always (π : K.Path s) (P : σ → Prop) : Prop := ∀ n t, π.state n = some t → P t

/-- At some position of the path. -/
def Eventually (π : K.Path s) (P : σ → Prop) : Prop := ∃ n t, π.state n = some t ∧ P t

/-- `Q` at some position of the path, and `P` at all positions before. -/
def Until (π : K.Path s) (P Q : σ → Prop) : Prop :=
  ∃ n t, π.state n = some t ∧ Q t ∧ ∀ m u, m < n → π.state m = some u → P u

end Path

/-- The formula holds in the state. -/
def Sat (K : Kripke σ) : Formula → σ → Prop
  | .tt, _ => True
  | .ff, _ => False
  | .atom name, s => K.bears s name
  | .neg f, s => ¬K.Sat f s
  | .conj f g, s => K.Sat f s ∧ K.Sat g s
  | .disj f g, s => K.Sat f s ∨ K.Sat g s
  | .imp f g, s => K.Sat f s → K.Sat g s
  | .iff f g, s => K.Sat f s ↔ K.Sat g s
  | .ex f, s => ∃ π : K.Path s, ∃ t, π.state 1 = some t ∧ K.Sat f t
  | .ax f, s => ∀ π : K.Path s, ∀ t, π.state 1 = some t → K.Sat f t
  | .eg f, s => ∃ π : K.Path s, π.Always (K.Sat f)
  | .ag f, s => ∀ π : K.Path s, π.Always (K.Sat f)
  | .ef f, s => ∃ π : K.Path s, π.Eventually (K.Sat f)
  | .af f, s => ∀ π : K.Path s, π.Eventually (K.Sat f)
  | .eu f g, s => ∃ π : K.Path s, π.Until (K.Sat f) (K.Sat g)
  | .au f g, s => ∀ π : K.Path s, π.Until (K.Sat f) (K.Sat g)

/-! ## Paths -/

namespace Path

/-- The path with one more state in front. -/
def cons (h : K.next s t) (π : K.Path t) : K.Path s where
  state
    | 0 => some s
    | n + 1 => π.state n
  start := rfl
  ended {n} hn := by
    cases n with
    | zero => cases hn
    | succ n => exact π.ended hn
  step {n a b} ha hb := by
    cases n with
    | zero =>
      cases ha
      cases π.start.symm.trans hb
      exact h
    | succ n => exact π.step ha hb
  maximal {n a} ha hb := by
    cases n with
    | zero => cases π.start.symm.trans hb
    | succ n => exact π.maximal ha hb

/-- The path without its first state. -/
def tail (π : K.Path s) (h : π.state 1 = some t) : K.Path t where
  state n := π.state (n + 1)
  start := h
  ended := π.ended
  step := π.step
  maximal := π.maximal

/-- There are states at all positions before one with a state. -/
theorem exists_state_of_le (π : K.Path s) {m n : Nat} (h : m ≤ n) (hn : π.state n = some t) :
    ∃ u, π.state m = some u := by
  induction h generalizing t with
  | refl => exact ⟨t, hn⟩
  | @step n _ ih =>
    cases hs : π.state n with
    | none => rw [π.ended hs] at hn; cases hn
    | some u => exact ih hs

theorem next_of_state_one (π : K.Path s) (h : π.state 1 = some t) : K.next s t :=
  π.step π.start h

/-- A property of states that can always go on, or end in a dead end, holds along
a maximal path. -/
theorem exists_always {X : σ → Prop}
    (hX : ∀ a, X a → K.DeadEnd a ∨ ∃ b, K.next a b ∧ X b) (hs : X s) :
    ∃ π : K.Path s, π.Always X := by
  classical
  let succ (a : σ) : Option σ := if h : ∃ b, K.next a b ∧ X b then some h.choose else none
  have succ_some : ∀ {a b}, succ a = some b → K.next a b ∧ X b := by
    intro a b hb
    simp only [succ] at hb
    split at hb
    · next h =>
      cases hb
      exact h.choose_spec
    · cases hb
  have succ_none : ∀ {a}, succ a = none → ¬∃ b, K.next a b ∧ X b := by
    intro a hb
    simp only [succ] at hb
    split at hb
    · cases hb
    · assumption
  let state : Nat → Option σ := Nat.rec (some s) fun _ a => a.bind succ
  have holds : ∀ n t, state n = some t → X t := by
    intro n
    cases n with
    | zero => rintro t ⟨⟩; exact hs
    | succ n =>
      intro t ht
      obtain ⟨a, -, ha⟩ := Option.bind_eq_some_iff.1 ht
      exact (succ_some ha).2
  refine ⟨⟨state, rfl, ?_, ?_, ?_⟩, holds⟩
  · intro n hn
    show (state n).bind succ = none
    rw [hn]; rfl
  · intro n a b ha hb
    have hb : (state n).bind succ = some b := hb
    rw [ha] at hb
    exact (succ_some hb).1
  · intro n a ha hb
    have hb : (state n).bind succ = none := hb
    rw [ha] at hb
    exact (hX a (holds n a ha)).resolve_right (succ_none hb)

/-- There is a maximal path from every state. -/
theorem nonempty (K : Kripke σ) (s : σ) : Nonempty (K.Path s) := by
  have hX : ∀ a, True → K.DeadEnd a ∨ ∃ b, K.next a b ∧ True := by
    intro a _
    by_cases h : ∃ b, K.next a b
    · obtain ⟨b, hb⟩ := h
      exact .inr ⟨b, hb, trivial⟩
    · exact .inl fun b hb => h ⟨b, hb⟩
  obtain ⟨π, -⟩ := exists_always hX (s := s) trivial
  exact ⟨π⟩

end Path

/-! ## The core as fixpoints -/

theorem sat_ex : K.Sat (.ex f) s ↔ ∃ t, K.next s t ∧ K.Sat f t := by
  constructor
  · rintro ⟨π, t, ht, hf⟩
    exact ⟨t, π.next_of_state_one ht, hf⟩
  · rintro ⟨t, ht, hf⟩
    obtain ⟨π⟩ := Path.nonempty K t
    exact ⟨π.cons ht, t, π.start, hf⟩

theorem sat_ax : K.Sat (.ax f) s ↔ ∀ t, K.next s t → K.Sat f t := by
  constructor
  · intro h t ht
    obtain ⟨π⟩ := Path.nonempty K t
    exact h (π.cons ht) t π.start
  · intro h π t ht
    exact h t (π.next_of_state_one ht)

/-- A state of `EG f` is a state of `f` that is a dead end, or has a successor in
`EG f`. -/
theorem Sat.eg_inv (h : K.Sat (.eg f) s) :
    K.Sat f s ∧ (K.DeadEnd s ∨ ∃ t, K.next s t ∧ K.Sat (.eg f) t) := by
  obtain ⟨π, hπ⟩ := h
  refine ⟨hπ 0 s π.start, ?_⟩
  cases h1 : π.state 1 with
  | none => exact .inl (π.maximal π.start h1)
  | some t => exact .inr ⟨t, π.next_of_state_one h1, π.tail h1, fun n => hπ (n + 1)⟩

/-- `EG f` holds where any property of this kind does. -/
theorem Sat.eg_of_forall {X : σ → Prop} (hf : ∀ a, X a → K.Sat f a)
    (hX : ∀ a, X a → K.DeadEnd a ∨ ∃ b, K.next a b ∧ X b) (hs : X s) : K.Sat (.eg f) s := by
  obtain ⟨π, hπ⟩ := Path.exists_always hX hs
  exact ⟨π, fun n t ht => hf t (hπ n t ht)⟩

theorem Sat.eu_of_right (h : K.Sat g s) : K.Sat (.eu f g) s := by
  obtain ⟨π⟩ := Path.nonempty K s
  exact ⟨π, 0, s, π.start, h, fun m _ hm => absurd hm (Nat.not_lt_zero m)⟩

theorem Sat.eu_of_next (hf : K.Sat f s) (hst : K.next s t) (h : K.Sat (.eu f g) t) :
    K.Sat (.eu f g) s := by
  obtain ⟨π, n, u, hu, hg, hbefore⟩ := h
  refine ⟨π.cons hst, n + 1, u, hu, hg, fun m v hm hv => ?_⟩
  cases m with
  | zero => cases hv; exact hf
  | succ m => exact hbefore m v (Nat.lt_of_succ_lt_succ hm) hv

/-- A property of the states of `g` that passes back to predecessors in `f` holds
where `E[f U g]` does. -/
theorem Sat.eu_induction {P : σ → Prop} (hg : ∀ a, K.Sat g a → P a)
    (hf : ∀ a b, K.Sat f a → K.next a b → P b → P a) (h : K.Sat (.eu f g) s) : P s := by
  obtain ⟨π, n, u, hu, hgu, hbefore⟩ := h
  induction n generalizing s with
  | zero =>
    cases π.start.symm.trans hu
    exact hg _ hgu
  | succ n ih =>
    obtain ⟨t, ht⟩ := π.exists_state_of_le (Nat.le_add_left 1 n) hu
    refine hf s t (hbefore 0 s (Nat.succ_pos n) π.start) (π.next_of_state_one ht) ?_
    exact ih (π.tail ht) hu fun m v hm hv => hbefore (m + 1) v (Nat.succ_lt_succ hm) hv

/-! ## The core form -/

theorem Path.not_eventually_not (π : K.Path s) {P : σ → Prop} :
    ¬π.Eventually (fun a => ¬P a) ↔ π.Always P := by
  constructor
  · intro h n t ht
    by_contra hP
    exact h ⟨n, t, ht, hP⟩
  · rintro h ⟨n, t, ht, hP⟩
    exact hP (h n t ht)

theorem Path.not_always_not (π : K.Path s) {P : σ → Prop} :
    ¬π.Always (fun a => ¬P a) ↔ π.Eventually P := by
  constructor
  · intro h
    by_contra hP
    exact h fun n t ht hPt => hP ⟨n, t, ht, hPt⟩
  · rintro ⟨n, t, ht, hP⟩ h
    exact h n t ht hP

theorem Path.until_true (π : K.Path s) {Q : σ → Prop} :
    π.Until (fun _ => True) Q ↔ π.Eventually Q := by
  constructor
  · rintro ⟨n, t, ht, hQ, -⟩
    exact ⟨n, t, ht, hQ⟩
  · rintro ⟨n, t, ht, hQ⟩
    exact ⟨n, t, ht, hQ, fun _ _ _ _ => trivial⟩

/-- On one path, `P` holds up to `Q` if neither `P` fails before the first `Q`
nor `Q` fails for ever. -/
theorem Path.until_iff (π : K.Path s) {P Q : σ → Prop} :
    π.Until P Q ↔
      ¬π.Until (fun a => ¬Q a) (fun a => ¬P a ∧ ¬Q a) ∧ ¬π.Always (fun a => ¬Q a) := by
  classical
  constructor
  · rintro ⟨n, t, ht, hQ, hP⟩
    refine ⟨?_, fun h => h n t ht hQ⟩
    rintro ⟨m, u, hu, ⟨hnP, hnQ⟩, hbefore⟩
    rcases Nat.lt_trichotomy m n with hmn | rfl | hnm
    · exact hnP (hP m u hmn hu)
    · rw [hu] at ht
      cases ht
      exact hnQ hQ
    · exact hbefore n t hnm ht hQ
  · rintro ⟨hnot, halways⟩
    have hex : ∃ n t, π.state n = some t ∧ Q t := π.not_always_not.1 halways
    obtain ⟨t, ht, hQ⟩ := Nat.find_spec hex
    have hfirst : ∀ m u, m < Nat.find hex → π.state m = some u → ¬Q u :=
      fun m u hm hu hQ => Nat.find_min hex hm ⟨u, hu, hQ⟩
    refine ⟨Nat.find hex, t, ht, hQ, fun m u hm hu => ?_⟩
    by_contra hP
    refine hnot ⟨m, u, hu, ⟨hP, hfirst m u hm hu⟩, fun k v hk hv => ?_⟩
    exact hfirst k v (Nat.lt_trans hk hm) hv

/-- **A formula and its core form hold in the same states** of every structure. -/
theorem sat_toCore (K : Kripke σ) (f : Formula) : K.Sat f.toCore = K.Sat f := by
  induction f with
  | tt | ff | atom _ => rfl
  | neg f ih | ex f ih | ax f ih | eg f ih =>
    funext s
    simp only [Formula.toCore, Sat, ih]
  | conj f g ihf ihg | eu f g ihf ihg =>
    funext s
    simp only [Formula.toCore, Sat, ihf, ihg]
  | disj f g ihf ihg | imp f g ihf ihg | iff f g ihf ihg =>
    funext s
    simp only [Formula.toCore, Formula.coreImp, Formula.coreDisj, Sat, ihf, ihg]
    exact propext (by tauto)
  | ag f ih =>
    funext s
    simp only [Formula.toCore, Sat, ih, Path.until_true, not_exists, Path.not_eventually_not]
  | ef f ih =>
    funext s
    simp only [Formula.toCore, Sat, ih, Path.until_true]
  | af f ih =>
    funext s
    simp only [Formula.toCore, Sat, ih, not_exists, Path.not_always_not]
  | au f g ihf ihg =>
    funext s
    simp only [Formula.toCore, Sat, ihf, ihg, not_exists, ← forall_and]
    exact propext (forall_congr' fun π => π.until_iff.symm)

/-- **Simplification keeps the meaning.** Only operators of the core are left, and in every
structure, finite or not, with or without dead ends, the formula holds in a state exactly if
its core form does. -/
theorem toCore_keeps_meaning (f : Formula) : f.toCore.isCore = true ∧
    ∀ (σ : Type u) (K : Kripke σ) (s : σ), K.Sat f s ↔ K.Sat f.toCore s := by
  refine ⟨f.isCore_toCore, fun σ K s => ?_⟩
  rw [sat_toCore]

end Kripke

end BranchingTime
