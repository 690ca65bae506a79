/-
The two iterations, told by paths. A bound of `E[f U g]` or `EG f` is computed by set
operations, round after round; here it is the set of states from which there is a path of
known edges, finite or endless, inside the bounds of the operands.

All four rules of the checker have one form: a state is supported if a path may stop there,
or has a known edge into the region (`FollowsEdges`). They differ in where a path may stop,
and that is all in which the paths of the four bounds differ. So the two iterations are
compared with paths once each, for any such rule. An induction along the path, or along the
rounds, does for the growing one. For the shrinking one, a state that is kept and has no
finite path to a stop always has a successor of the same kind, which makes an endless path
(`StaysInside.of_forall`).
-/
import BranchingTime.Proofs.Soundness
import Mathlib.Tactic.Choose

namespace BranchingTime

namespace System

variable {sys : System} {inside goal stop P : Nat → Prop} {s t : Nat}

/-! ## Paths of known edges -/

/-- An endless path of known edges from `s`, inside a set of states. -/
def RunsInside (sys : System) (inside : Nat → Prop) (s : Nat) : Prop :=
  ∃ path : Nat → Nat, path 0 = s ∧ ∀ i, inside (path i) ∧ sys.Leads (path i) (path (i + 1))

/-- A finite path of known edges from `s` to a goal. All its states but the last one are
inside a set of states, and the last one has to be if the goal says so. -/
def RunsTo (sys : System) (inside goal : Nat → Prop) (s : Nat) : Prop :=
  ∃ (path : Nat → Nat) (length : Nat), path 0 = s ∧
    (∀ i < length, inside (path i) ∧ sys.Leads (path i) (path (i + 1))) ∧ goal (path length)

/-- A path of known edges from `s` inside a set of states, that never ends or ends where it
may stop. -/
def StaysInside (sys : System) (inside stop : Nat → Prop) (s : Nat) : Prop :=
  sys.RunsInside inside s ∨ sys.RunsTo inside (fun t => inside t ∧ stop t) s

/-- The path with one more state in front. -/
def prepend (s : Nat) (path : Nat → Nat) : Nat → Nat
  | 0 => s
  | i + 1 => path i

namespace RunsTo

theorem here (h : goal s) : sys.RunsTo inside goal s :=
  ⟨fun _ => s, 0, rfl, fun i hi => absurd hi (Nat.not_lt_zero i), h⟩

theorem step (hs : inside s) (hst : sys.Leads s t) (h : sys.RunsTo inside goal t) :
    sys.RunsTo inside goal s := by
  obtain ⟨path, length, rfl, hpath, hgoal⟩ := h
  refine ⟨prepend s path, length + 1, rfl, fun i hi => ?_, hgoal⟩
  cases i with
  | zero => exact ⟨hs, hst⟩
  | succ i => exact hpath i (Nat.lt_of_succ_lt_succ hi)

/-- A path to a goal is there already, or takes a first step. -/
theorem cases (h : sys.RunsTo inside goal s) :
    goal s ∨ inside s ∧ ∃ t, sys.Leads s t ∧ sys.RunsTo inside goal t := by
  obtain ⟨path, length, rfl, hpath, hgoal⟩ := h
  cases length with
  | zero => exact .inl hgoal
  | succ length =>
    obtain ⟨hinside, hleads⟩ := hpath 0 (Nat.succ_pos length)
    refine .inr ⟨hinside, path 1, hleads, fun i => path (i + 1), length, rfl, fun i hi => ?_, hgoal⟩
    exact hpath (i + 1) (Nat.succ_lt_succ hi)

/-- A property of the goals that passes back along known edges holds where paths start. -/
theorem induction (hgoal : ∀ t, goal t → P t)
    (hstep : ∀ t u, inside t → sys.Leads t u → P u → P t) (h : sys.RunsTo inside goal s) :
    P s := by
  obtain ⟨path, length, rfl, hpath, hlast⟩ := h
  induction length generalizing path with
  | zero => exact hgoal _ hlast
  | succ length ih =>
    obtain ⟨hinside, hleads⟩ := hpath 0 (Nat.succ_pos length)
    refine hstep _ _ hinside hleads (ih (fun i => path (i + 1)) (fun i hi => ?_) hlast)
    exact hpath (i + 1) (Nat.succ_lt_succ hi)

end RunsTo

theorem RunsInside.next (h : sys.RunsInside inside s) :
    inside s ∧ ∃ t, sys.Leads s t ∧ sys.RunsInside inside t := by
  obtain ⟨path, rfl, hpath⟩ := h
  have hrest : sys.RunsInside inside (path 1) :=
    ⟨fun i => path (i + 1), rfl, fun i => hpath (i + 1)⟩
  exact ⟨(hpath 0).1, path 1, (hpath 0).2, hrest⟩

/-- Where a property can always go on by a known edge, an endless path starts. -/
theorem RunsInside.of_forall (hinside : ∀ t, P t → inside t)
    (hnext : ∀ t, P t → ∃ u, sys.Leads t u ∧ P u) (hs : P s) : sys.RunsInside inside s := by
  choose next hleads hkeeps using hnext
  let walk : Nat → { t // P t } := Nat.rec ⟨s, hs⟩ fun _ t => ⟨next t.1 t.2, hkeeps t.1 t.2⟩
  exact ⟨fun i => (walk i).1, rfl, fun i =>
    ⟨hinside _ (walk i).2, hleads (walk i).1 (walk i).2⟩⟩

namespace StaysInside

theorem next (h : sys.StaysInside inside stop s) :
    inside s ∧ (stop s ∨ ∃ t, sys.Leads s t ∧ sys.StaysInside inside stop t) := by
  rcases h with hendless | hfinite
  · obtain ⟨hs, t, ht, hrest⟩ := hendless.next
    exact ⟨hs, .inr ⟨t, ht, .inl hrest⟩⟩
  · rcases hfinite.cases with ⟨hs, hstop⟩ | ⟨hs, t, ht, hrest⟩
    · exact ⟨hs, .inl hstop⟩
    · exact ⟨hs, .inr ⟨t, ht, .inr hrest⟩⟩

/-- Where a property can always stop or go on by a known edge, such a path starts. -/
theorem of_forall (hinside : ∀ t, P t → inside t)
    (hnext : ∀ t, P t → stop t ∨ ∃ u, sys.Leads t u ∧ P u) (hs : P s) :
    sys.StaysInside inside stop s := by
  by_cases hstops : sys.RunsTo inside (fun t => inside t ∧ stop t) s
  · exact .inr hstops
  -- no path from `s` comes to a stop, and the property goes on together with that
  let never (t : Nat) : Prop := ¬sys.RunsTo inside (fun u => inside u ∧ stop u) t
  refine .inl (RunsInside.of_forall (P := fun t => P t ∧ never t)
    (fun t ht => hinside t ht.1) ?_ ⟨hs, hstops⟩)
  rintro t ⟨ht, hnever⟩
  rcases hnext t ht with hstop | ⟨u, hu, hPu⟩
  · exact absurd (.here ⟨hinside t ht, hstop⟩) hnever
  · exact ⟨u, hu, hPu, fun hlater => hnever (.step (hinside t ht) hu hlater)⟩

end StaysInside

end System

/-! ## Rules that follow the edges -/

namespace Rule

variable {sys : System} {rule : Rule} {base candidates start : Region} {stop : Nat → Prop}
  {s : Nat}

/-- The rule supports the states where a path may stop, and those with a known edge into
the region. -/
def FollowsEdges (rule : Rule) (sys : System) (stop : Nat → Prop) : Prop :=
  ∀ (region : Region) (s : Nat),
    rule.supports region s = true ↔ stop s ∨ ∃ t, sys.Leads s t ∧ t ∈ region

/-- The shrinking iteration keeps the states from which a path stays among the candidates. -/
theorem FollowsEdges.mem_greatest_iff (h : rule.FollowsEdges sys stop)
    (hstart : candidates ⊆ start) : s ∈ (rule.greatest candidates start).region ↔
      sys.StaysInside (· ∈ candidates) stop s := by
  constructor
  · refine System.StaysInside.of_forall (fun t ht => (mem_greatest ht).1) fun t ht => ?_
    exact (h _ t).1 (mem_greatest ht).2
  · -- the starts of such paths support one another, each by the next state of its path
    refine mem_greatest_of_forall (fun t ht => hstart t ht.next.1) (fun t ht => ht.next.1) ?_
    intro region t hregion ht
    refine (h region t).2 (ht.next.2.imp_right ?_)
    rintro ⟨u, hu, hrest⟩
    exact ⟨u, hu, hregion u hrest⟩

/-- The growing iteration adds the states with a path among the candidates to the base, or
to a candidate where it may stop. -/
theorem FollowsEdges.mem_least_iff (h : rule.FollowsEdges sys stop) :
    s ∈ (rule.least base candidates).region ↔
      sys.RunsTo (· ∈ candidates) (fun t => t ∈ base ∨ t ∈ candidates ∧ stop t) s := by
  constructor
  · refine fun hs => forall_mem_least (P := sys.RunsTo (· ∈ candidates) _)
      (fun t ht => .here (.inl ht)) (fun region hregion t ht hsupports => ?_) s hs
    rcases (h region t).1 hsupports with hstop | ⟨u, hu, hin⟩
    · exact .here (.inr ⟨ht, hstop⟩)
    · exact .step ht hu (hregion u hin)
  · refine System.RunsTo.induction ?_ ?_
    · rintro t (hbase | ⟨ht, hstop⟩)
      · exact mem_least.2 (.inl hbase)
      · exact mem_least.2 (.inr ⟨ht, (h _ t).2 (.inl hstop)⟩)
    · exact fun t u ht hu hin => mem_least.2 (.inr ⟨ht, (h _ t).2 (.inr ⟨u, hu, hin⟩)⟩)

end Rule

namespace System

variable {sys : System} {f g : Formula}

/-- A path that is sure to be maximal stops in a dead end off the frontier. -/
theorem surelyGoesOn_followsEdges (sys : System) :
    sys.surelyGoesOn.FollowsEdges sys fun t => t ∉ sys.frontier ∧ ∀ u, ¬sys.Leads t u := by
  intro region s
  rw [surelyGoesOn_iff, or_comm, and_comm]

theorem maybeGoesOn_followsEdges (sys : System) :
    sys.maybeGoesOn.FollowsEdges sys fun t => t ∈ sys.frontier ∨ ∀ u, ¬sys.Leads t u := by
  intro region s
  rw [maybeGoesOn_iff, or_comm, or_comm (b := s ∈ sys.frontier)]

theorem surelyEnters_followsEdges (sys : System) :
    sys.surelyEnters.FollowsEdges sys fun _ => False := by
  intro region s
  rw [surelyEnters_iff, false_or]

/-- From the frontier, the path to the goal may go on out of sight. -/
theorem maybeEnters_followsEdges (sys : System) :
    sys.maybeEnters.FollowsEdges sys (· ∈ sys.frontier) :=
  fun _ _ => maybeEnters_iff

/-! ## Bounds -/

/-- The bounds `e` of `E[f U g]` by paths inside the bounds `b` of `f` and `d` of `g`. -/
structure UntilByPaths (sys : System) (b d e : Bounds) : Prop where
  lower : ∀ s, s ∈ e.lower ↔ sys.RunsTo (· ∈ b.lower) (· ∈ d.lower) s
  upper : ∀ s, s ∈ e.upper ↔
    sys.RunsTo (· ∈ b.upper) (fun t => t ∈ d.upper ∨ t ∈ b.upper ∧ t ∈ sys.frontier) s

/-- The bounds `e` of `EG f` by paths inside the bounds `b` of `f`. -/
structure AlwaysByPaths (sys : System) (b e : Bounds) : Prop where
  lower : ∀ s, s ∈ e.lower ↔
    sys.StaysInside (· ∈ b.lower) (fun t => t ∉ sys.frontier ∧ ∀ u, ¬sys.Leads t u) s
  upper : ∀ s, s ∈ e.upper ↔
    sys.StaysInside (· ∈ b.upper) (fun t => t ∈ sys.frontier ∨ ∀ u, ¬sys.Leads t u) s

theorem bounds_eu_byPaths (sys : System) (f g : Formula) :
    sys.UntilByPaths (sys.bounds f) (sys.bounds g) (sys.bounds (.eu f g)) where
  lower s := by
    rw [bounds, sys.surelyEnters_followsEdges.mem_least_iff]
    simp only [and_false, or_false]
  upper _ := sys.maybeEnters_followsEdges.mem_least_iff

theorem bounds_eg_byPaths (hv : sys.Valid) (f : Formula) :
    sys.AlwaysByPaths (sys.bounds f) (sys.bounds (.eg f)) := by
  have hwithin := sys.bounds_within hv f
  exact ⟨fun _ => sys.surelyGoesOn_followsEdges.mem_greatest_iff
      (Region.subset_trans hwithin.ordered hwithin.inside),
    fun _ => sys.maybeGoesOn_followsEdges.mem_greatest_iff hwithin.inside⟩

/-! ## Checks -/

/-- **The bounds of until and always are given by paths.** Whatever was done before the
checks of the operands, and before that of the formula, an until has an answer exactly if
both operands have and the starts of its possible paths fit into a set, and its bounds are
the starts of finite paths; `EG` has an answer unless the states do not fit into a set, and
its bounds are the starts of endless paths, or of finite ones that stop. -/
theorem check_bounds_iff_paths {c c' : Checker} (hv : sys.Valid) (hc : c.Reached sys)
    (hc' : c'.Reached sys) (f g : Formula) :
    ((∃ b d e, ((c.session sys).check f).1 = .ok b ∧ ((c.session sys).check g).1 = .ok d ∧
        ((c'.session sys).check (.eu f g)).1 = .ok e ∧ sys.UntilByPaths b d e ∧ e.Fits) ∨
      ((c'.session sys).check (.eu f g)).1 = .error .capacity ∧ setLimit ≤ sys.size ∧
      (((c.session sys).check f).1 = .error .capacity ∨
        ((c.session sys).check g).1 = .error .capacity ∨
        ∃ b d e, ((c.session sys).check f).1 = .ok b ∧ ((c.session sys).check g).1 = .ok d ∧
          sys.UntilByPaths b d e ∧ ¬e.Fits)) ∧
    ((∃ b e, ((c.session sys).check f).1 = .ok b ∧
        ((c'.session sys).check (.eg f)).1 = .ok e ∧ sys.AlwaysByPaths b e) ∨
      ((c'.session sys).check (.eg f)).1 = .error .capacity ∧ setLimit ≤ sys.size) := by
  have hf := hc.check_okIf hv f
  have hg := hc.check_okIf hv g
  constructor
  · have hu := hc'.check_okIf hv (.eu f g)
    have hpaths := sys.bounds_eu_byPaths f.toCore g.toCore
    by_cases hafford : sys.Affords (Formula.eu f g).toCore
    · obtain ⟨⟨haf, hag⟩, hfits⟩ := hafford
      exact .inl ⟨_, _, _, hf.ok haf, hg.ok hag, hu.ok ⟨⟨haf, hag⟩, hfits⟩, hpaths, hfits⟩
    · refine .inr ⟨hu.error hafford, setLimit_le_of_not_affords hv hafford, ?_⟩
      by_cases haf : sys.Affords f.toCore
      · by_cases hag : sys.Affords g.toCore
        · exact .inr (.inr ⟨_, _, _, hf.ok haf, hg.ok hag, hpaths,
            fun hfits => hafford ⟨⟨haf, hag⟩, hfits⟩⟩)
        · exact .inr (.inl (hg.error hag))
      · exact .inl (hf.error haf)
  · have hg := (hc'.check_okIf hv (.eg f)).congr (affords_eg hv).symm
    by_cases hfits : sys.size < setLimit
    · exact .inl ⟨_, _, hf.ok (affords_of_fits hv hfits _), hg.ok hfits,
        bounds_eg_byPaths hv f.toCore⟩
    · exact .inr ⟨hg.error hfits, Nat.not_lt.1 hfits⟩

theorem check_bounds_iff_paths_ring :
    (ring 3).Valid ∧ Checker.Reached (ring 3) {} ∧
    (∃ b d e, ((({} : Checker).session (ring 3)).check (.neg (.atom "p"))).1 = .ok b ∧
      ((({} : Checker).session (ring 3)).check (.atom "p")).1 = .ok d ∧
      ((({} : Checker).session (ring 3)).check (.eu (.neg (.atom "p")) (.atom "p"))).1 = .ok e ∧
      (ring 3).UntilByPaths b d e ∧ e.Fits) ∧
    ∃ b e, ((({} : Checker).session (ring 3)).check (.neg (.atom "p"))).1 = .ok b ∧
      ((({} : Checker).session (ring 3)).check (.eg (.neg (.atom "p")))).1 = .ok e ∧
      (ring 3).AlwaysByPaths b e := by
  have hv : (ring 3).Valid := violation?_eq_none.1 (by decide +kernel)
  have hfits : ¬setLimit ≤ (ring 3).size := by decide +kernel
  obtain ⟨huntil, halways⟩ :=
    check_bounds_iff_paths hv .refl .refl (.neg (.atom "p")) (.atom "p")
  exact ⟨hv, .refl, huntil.resolve_right fun hfault => hfits hfault.2.1,
    halways.resolve_right fun hfault => hfits hfault.2⟩

/-- In a system that is too large, a state of `p` where a path stops at once is in no bound
of `EG p`. -/
theorem vast_path_unanswered :
    vast.Valid ∧ vast.size < 18446744073709551615 ∧
    (∃ b, ((({} : Checker).session vast).check (.atom "p")).1 = .ok b ∧
      vast.StaysInside (· ∈ b.lower) (fun t => t ∉ vast.frontier ∧ ∀ u, ¬vast.Leads t u) 3) ∧
    ¬∃ e, ((({} : Checker).session vast).check (.eg (.atom "p"))).1 = .ok e ∧ 3 ∈ e.lower := by
  have hchecker : Checker.Reached vast {} := .refl
  have hatom := (hchecker.check_okIf vast_valid (.atom "p")).ok (by decide)
  have hfault := check_eg_eq_error vast_valid hchecker (by decide) (.atom "p")
  have hbearing : 3 ∈ vast.bearing "p" := by decide +kernel
  have hdead : ∀ u, ¬vast.Leads 3 u := by
    rintro u ⟨targets, htargets, -⟩
    cases htargets
  refine ⟨vast_valid, by decide, ⟨_, hatom, .inr (.here ⟨hbearing, ?_, hdead⟩)⟩, ?_⟩
  · exact not_mem_frontier_vast 3
  · rintro ⟨e, he, -⟩
    rw [hfault] at he
    cases he

end System

end BranchingTime
