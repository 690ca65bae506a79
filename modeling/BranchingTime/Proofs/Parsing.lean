/-
The parser accepts the sentences of the grammar, and nothing else: `parseTokens`
gives a formula exactly if the tokens are derived from `iff`, and the formula is
how the derivation is read (`parseTokens_eq_ok_iff`).

One direction is an invariant of the parser. Its stack always spells the tokens
read so far: every frame stands for some tokens, and left operands are phrases
(`Spells`). A frame asks for a phrase of some level next to it, and no operator on
the stack is weaker than what the frame below it asks for; so whenever operators
take their operands, the pieces fit together to a phrase.

The other direction follows the derivation. To read the tokens of a phrase leads
to a state from which the parser goes on as if it had the formula of the phrase
as its last operand (`Phrase.outcome?_append`). The state itself may be another
one, as operators wait for the next token before they take their operands.
-/
import BranchingTime.Proofs.Grammar
import BranchingTime.Proofs.Text

namespace BranchingTime.FormulaFile

theorem Unary.token_of_ofWord? {text : String} {op : Unary} (h : Unary.ofWord? text = some op) :
    op.token = .word text := by
  unfold Unary.ofWord? at h
  split at h <;> cases h <;> rfl

theorem Binary.token_of_ofToken? {t : Token} {op : Binary} (h : Binary.ofToken? t = some op) :
    op.token = t := by
  unfold Binary.ofToken? at h
  split at h <;> cases h <;> rfl

theorem Quantifier.word_not_mem_keywords (q : Quantifier) : q.word ∉ keywords := by
  cases q <;> decide

/-- The keywords are the words that are not read as names. -/
theorem not_mem_keywords {text : String} (hop : Unary.ofWord? text = none) (htrue : text ≠ "true")
    (hfalse : text ≠ "false") (huntil : text ≠ "U") : text ∉ keywords := by
  intro h
  simp only [keywords, List.mem_cons, List.not_mem_nil, or_false] at h
  rcases h with rfl | rfl | rfl | rfl | rfl | rfl | rfl | rfl | rfl <;>
    contradiction

/-! ## What is on the stack -/

/-- The stack stands for these tokens, and for a phrase of this level to come. -/
inductive Spells : Stack → Level → List Token → Prop
  | nil : Spells [] (.binary .iff) []
  | unary {stack : Stack} {l : Level} {ts : List Token} (op : Unary) (h : Spells stack l ts) :
    Spells (.unary op :: stack) .unary (ts ++ [op.token])
  | left {stack : Stack} {l : Level} {ts us : List Token} {f : Formula} {op : Binary}
    (h : Spells stack l ts) (hf : Parses op.leftOperand us f) (hl : l.strength ≤ op.strength) :
    Spells (.left f op :: stack) op.rightOperand (ts ++ (us ++ [op.token]))
  | round {stack : Stack} {l : Level} {ts : List Token} (h : Spells stack l ts) :
    Spells (.round :: stack) (.binary .iff) (ts ++ [.openRound])
  | reaching {stack : Stack} {l : Level} {ts : List Token} (q : Quantifier)
    (h : Spells stack l ts) :
    Spells (.reaching q :: stack) (.binary .iff) (ts ++ [.word q.word, .openSquare])
  | reached {stack : Stack} {l : Level} {ts us : List Token} {f : Formula} (q : Quantifier)
    (h : Spells stack l ts) (hf : Parses (.binary .iff) us f) :
    Spells (.reached q f :: stack) (.binary .iff)
      (ts ++ (.word q.word :: .openSquare :: (us ++ [.word "U"])))

/-- No operator waits right before the operand. -/
def Settled (stack : Stack) : Prop := ∀ op below, stack ≠ .unary op :: below

/-- The tokens that a state has read. -/
def State.Spelled : State → List Token → Prop
  | .operand stack, ts => ∃ l, Spells stack l ts
  | .quantifier q stack, ts => ∃ l us, Spells stack l us ∧ ts = us ++ [.word q.word]
  | .operator stack f, ts =>
    ∃ l us vs, Spells stack l us ∧ Settled stack ∧ Parses .unary vs f ∧ ts = us ++ vs

namespace Spells

variable {stack : Stack} {l l' : Level} {us vs : List Token} {f : Formula}

/-- Where less than an operand of an operator is asked for, none waits. -/
theorem settled_of_lt (h : Spells stack l us) (hl : l.strength < 4) : Settled stack := by
  rintro op below rfl
  cases h
  exact absurd hl (by decide)

/-- An operand is taken by the operators that wait for it. -/
theorem spelled_afterOperand (h : Spells stack l us) (hf : Parses .unary vs f) :
    (State.afterOperand stack f).Spelled (us ++ vs) := by
  induction stack generalizing l us vs f with
  | nil => exact ⟨l, us, vs, h, by rintro op below ⟨⟩, hf, rfl⟩
  | cons frame stack ih =>
    cases frame with
    | unary op =>
      cases h with
      | unary _ h =>
        have htaken := ih h (hf.unary op)
        rwa [List.append_cons] at htaken
    | left _ _ | round | reaching _ | reached _ _ =>
      exact ⟨l, us, vs, h, by rintro op below ⟨⟩, hf, rfl⟩

/-- An operator comes after its left operand, where no other operator takes that. -/
theorem spelled_operator {op : Binary} (h : Spells stack l us) (hf : Parses op.leftOperand vs f)
    (hl : l.strength ≤ op.strength) :
    (State.operand (.left f op :: stack)).Spelled (us ++ vs ++ [op.token]) := by
  refine ⟨op.rightOperand, ?_⟩
  rw [List.append_assoc]
  exact h.left hf hl

/-- Before an operator, the operators to its left that bind more strongly take
their operands. -/
theorem spelled_beforeOperator {op : Binary} (h : Spells stack l us) (hs : Settled stack)
    (hf : Parses l' vs f) (hl : l.strength ≤ l'.strength)
    (hop : op.leftOperand.strength ≤ l'.strength) :
    (State.beforeOperator op stack f).Spelled (us ++ vs ++ [op.token]) := by
  induction stack generalizing l l' us vs f with
  | nil =>
    cases h
    exact spelled_operator .nil (hf.weaken hop) (Nat.zero_le _)
  | cons frame stack ih =>
    cases frame with
    | unary op' => exact absurd rfl (hs op' stack)
    | left g left =>
      cases h with
      | @left _ l ts us _ _ h hg hleft =>
        unfold State.beforeOperator
        split
        next htakes =>
          have hboth := hg.binary (hf.weaken hl)
          have hsettled := h.settled_of_lt (Nat.lt_of_le_of_lt hleft left.strength_lt)
          have htaken := ih h hsettled hboth hleft (Binary.leftOperand_le_of_takesBefore htakes)
          simpa only [List.append_assoc, List.cons_append, List.nil_append] using htaken
        next hnot =>
          have hwaits := Binary.rightOperand_le_of_not_takesBefore (Bool.eq_false_iff.2 hnot)
          exact (h.left hg hleft).spelled_operator (hf.weaken hop) hwaits
    | round | reaching _ | reached _ _ =>
      have hiff : l = .binary .iff := by cases h; rfl
      subst hiff
      exact h.spelled_operator (hf.weaken hop) (Nat.zero_le _)

/-- Before a bracket ends, all operators in it take their operands. -/
theorem exists_inBracket (h : Spells stack l us) (hs : Settled stack) (hf : Parses l' vs f)
    (hl : l.strength ≤ l'.strength) :
    ∃ us' vs', Spells (State.inBracket stack f).1 (.binary .iff) us' ∧
      Parses (.binary .iff) vs' (State.inBracket stack f).2 ∧ us ++ vs = us' ++ vs' := by
  induction stack generalizing l l' us vs f with
  | nil =>
    cases h
    exact ⟨[], vs, .nil, hf.weaken (Nat.zero_le _), rfl⟩
  | cons frame stack ih =>
    cases frame with
    | unary op' => exact absurd rfl (hs op' stack)
    | left g left =>
      cases h with
      | @left _ l ts us _ _ h hg hleft =>
        have hboth := hg.binary (hf.weaken hl)
        have hsettled := h.settled_of_lt (Nat.lt_of_le_of_lt hleft left.strength_lt)
        obtain ⟨us', vs', hspells, hparses, heq⟩ := ih h hsettled hboth hleft
        refine ⟨us', vs', hspells, hparses, ?_⟩
        rw [← heq]
        simp only [List.append_assoc, List.cons_append, List.nil_append]
    | round | reaching _ | reached _ _ =>
      have hiff : l = .binary .iff := by cases h; rfl
      subst hiff
      exact ⟨us, vs, h, hf.weaken (Nat.zero_le _), rfl⟩

/-- A bracket ends with its closing token. -/
theorem spelled_close {found : Lexeme} {state : State} (h : Spells stack (.binary .iff) us)
    (hf : Parses (.binary .iff) vs f) (hc : State.close found stack f = .ok state) :
    state.Spelled (us ++ vs ++ [found.token]) := by
  unfold State.close at hc
  split at hc
  next stack hfound =>
    cases hc
    cases h with
    | @round _ _ ts h =>
      have hspelled := h.spelled_afterOperand hf.round
      simpa only [hfound, List.append_assoc, List.cons_append, List.nil_append] using hspelled
  next q stack hfound =>
    cases hc
    cases h with
    | @reaching _ _ ts _ h =>
      have hspells := Spells.reached q h hf
      refine ⟨.binary .iff, ?_⟩
      simpa only [hfound, List.append_assoc, List.cons_append, List.nil_append] using hspells
  next q g stack hfound =>
    cases hc
    cases h with
    | @reached _ _ ts us _ _ h hg =>
      have hspelled := h.spelled_afterOperand (hg.path q hf)
      simpa only [hfound, List.append_assoc, List.cons_append, List.nil_append] using hspelled
  next => cases hc

end Spells

namespace State

variable {state state' : State} {stack : Stack} {found : Lexeme} {ts : List Token} {f : Formula}

theorem Spelled.stepOperand {l : Level} (h : Spells stack l ts)
    (hs : stepOperand found stack = .ok state') : state'.Spelled (ts ++ [found.token]) := by
  unfold State.stepOperand at hs
  split at hs
  next hfound =>
    cases hs
    rw [hfound]
    exact ⟨_, h.unary .neg⟩
  next hfound =>
    cases hs
    rw [hfound]
    exact ⟨_, h.round⟩
  next name hfound =>
    cases hs
    rw [hfound]
    exact h.spelled_afterOperand ⟨.quoted name, rfl, rfl⟩
  next hfound =>
    cases hs
    rw [hfound]
    exact h.spelled_afterOperand ⟨.tt, rfl, rfl⟩
  next hfound =>
    cases hs
    rw [hfound]
    exact h.spelled_afterOperand ⟨.ff, rfl, rfl⟩
  next => cases hs
  next name htrue hfalse huntil hfound =>
    rw [hfound]
    split at hs
    next _ op hop =>
      cases hs
      rw [← Unary.token_of_ofWord? hop]
      exact ⟨_, h.unary op⟩
    next q hop hq =>
      cases hs
      rw [Quantifier.eq_of_ofWord? hq]
      exact ⟨_, _, h, rfl⟩
    next hop hq =>
      cases hs
      exact h.spelled_afterOperand (.name (not_mem_keywords hop htrue hfalse huntil))
  next => cases hs

theorem Spelled.stepOperator (h : (operator stack f).Spelled ts)
    (hs : stepOperator found stack f = .ok state') : state'.Spelled (ts ++ [found.token]) := by
  obtain ⟨l, us, vs, hspells, hsettled, hf, rfl⟩ := h
  unfold State.stepOperator at hs
  split at hs
  next op hop =>
    cases hs
    rw [← Binary.token_of_ofToken? hop]
    exact hspells.spelled_beforeOperator hsettled hf l.strength_le op.leftOperand.strength_le
  next =>
    obtain ⟨us', vs', hspells, hf, heq⟩ := hspells.exists_inBracket hsettled hf l.strength_le
    rw [heq]
    exact hspells.spelled_close hf hs

/-- A quantifier that no bracket follows is a name. -/
theorem step_quantifier {q : Quantifier} (h : found.token ≠ .openSquare) :
    (quantifier q stack).step found = (afterOperand stack (.atom q.word)).step found :=
  if_neg h

theorem finish_quantifier {q : Quantifier} :
    (quantifier q stack).finish = (afterOperand stack (.atom q.word)).finish := rfl

theorem Spelled.name {q : Quantifier} (h : (quantifier q stack).Spelled ts) :
    (afterOperand stack (.atom q.word)).Spelled ts := by
  obtain ⟨l, us, hspells, rfl⟩ := h
  exact hspells.spelled_afterOperand (.name q.word_not_mem_keywords)

/-- **One more token.** The parser keeps track of all that it has read. -/
theorem Spelled.step (h : state.Spelled ts) (hs : state.step found = .ok state') :
    state'.Spelled (ts ++ [found.token]) := by
  cases state with
  | operand stack =>
    obtain ⟨l, hspells⟩ := h
    exact .stepOperand hspells hs
  | operator stack f => exact h.stepOperator hs
  | quantifier q stack =>
    by_cases hfound : found.token = .openSquare
    · obtain ⟨l, us, hspells, rfl⟩ := h
      obtain rfl : _ = state' := Except.ok.inj ((if_pos hfound).symm.trans hs)
      refine ⟨.binary .iff, ?_⟩
      rw [hfound, List.append_assoc]
      exact hspells.reaching q
    · rw [step_quantifier hfound] at hs
      exact h.name.stepOperator hs

theorem Spelled.foldlM {tokens : List Lexeme} (h : state.Spelled ts)
    (hs : tokens.foldlM State.step state = .ok state') :
    state'.Spelled (ts ++ tokens.map (·.token)) := by
  induction tokens generalizing state ts with
  | nil =>
    cases hs
    simpa using h
  | cons found tokens ih =>
    rw [List.foldlM_cons] at hs
    cases hstep : state.step found with
    | error e => rw [hstep] at hs; cases hs
    | ok next =>
      rw [hstep] at hs
      have hspelled := ih (h.step hstep) hs
      rwa [List.append_assoc] at hspelled

theorem Spelled.finishOperator (h : (operator stack f).Spelled ts) {g : Formula}
    (hs : finishOperator stack f = .ok g) : Parses (.binary .iff) ts g := by
  obtain ⟨l, us, vs, hspells, hsettled, hf, rfl⟩ := h
  obtain ⟨us', vs', hspells, hf, heq⟩ := hspells.exists_inBracket hsettled hf l.strength_le
  unfold State.finishOperator at hs
  split at hs
  next f' hin =>
    rw [hin] at hspells hf
    cases hs
    cases hspells
    rw [heq]
    exact hf
  next => cases hs

theorem Spelled.finish (h : state.Spelled ts) (hs : state.finish = .ok f) :
    Parses (.binary .iff) ts f := by
  cases state with
  | operand stack => cases hs
  | operator stack g => exact h.finishOperator hs
  | quantifier q stack => exact h.name.finishOperator hs

end State

theorem parses_of_parseTokens {tokens : List Lexeme} {f : Formula}
    (h : parseTokens tokens = .ok f) : Parses (.binary .iff) (tokens.map (·.token)) f := by
  unfold parseTokens at h
  cases hs : tokens.foldlM State.step (.operand []) with
  | error e => rw [hs] at h; cases h
  | ok state =>
    rw [hs] at h
    have hstart : (State.operand []).Spelled [] := ⟨_, .nil⟩
    exact (hstart.foldlM hs).finish h

/-! ## What is read -/

namespace State

variable {stack : Stack} {t : Token} {ts : List Token} {f g : Formula}

/-- The state after a token, if it fits. -/
def next? (state : State) (t : Token) : Option State := (state.step ⟨0, t⟩).toOption

/-- The formula to which tokens lead, if they do. -/
def outcome? (state : State) (ts : List Token) : Option Formula := do
  (← ts.foldlM next? state).finish.toOption

theorem outcome?_cons {state next : State} (h : state.next? t = some next) :
    state.outcome? (t :: ts) = next.outcome? ts := by
  rw [outcome?, List.foldlM_cons, h]
  rfl

/-- Two states that agree on the next token lead to the same formula. -/
theorem outcome?_congr {state state' : State} (hnext : ∀ t, ts.head? = some t →
    state.next? t = state'.next? t) (hfinish : state.finish = state'.finish) :
    state.outcome? ts = state'.outcome? ts := by
  cases ts with
  | nil => simp only [outcome?, List.foldlM_nil, hfinish, Option.pure_def, Option.bind_eq_bind,
      Option.bind_some]
  | cons t ts => simp only [outcome?, List.foldlM_cons, hnext t rfl]

theorem toOption_stepOperand (column : Nat) (t : Token) (stack : Stack) :
    (stepOperand ⟨column, t⟩ stack).toOption = (stepOperand ⟨0, t⟩ stack).toOption := by
  unfold stepOperand
  dsimp only
  split <;> rfl

theorem toOption_stepOperator (column : Nat) (t : Token) (stack : Stack) (f : Formula) :
    (stepOperator ⟨column, t⟩ stack f).toOption = (stepOperator ⟨0, t⟩ stack f).toOption := by
  unfold stepOperator close
  dsimp only
  split
  · rfl
  · split <;> rfl

/-- Columns do not matter, except in errors. -/
theorem toOption_step (state : State) (found : Lexeme) :
    (state.step found).toOption = state.next? found.token := by
  obtain ⟨column, t⟩ := found
  cases state with
  | operand stack => exact toOption_stepOperand column t stack
  | operator stack f => exact toOption_stepOperator column t stack f
  | quantifier q stack =>
    unfold next? step
    dsimp only
    split
    · rfl
    · exact toOption_stepOperator column t _ _

theorem toOption_foldlM (state : State) (tokens : List Lexeme) :
    (tokens.foldlM step state).toOption = (tokens.map (·.token)).foldlM next? state := by
  induction tokens generalizing state with
  | nil => rfl
  | cons found tokens ih =>
    rw [List.foldlM_cons, List.map_cons, List.foldlM_cons, ← toOption_step]
    cases state.step found with
    | error e => rfl
    | ok next => exact ih next

/-! ### One token -/

theorem next?_unary (op : Unary) :
    (operand stack).next? op.token = some (operand (.unary op :: stack)) := by
  cases op <;> rfl

theorem next?_name {text : String} (h : text ∉ keywords) (hq : Quantifier.ofWord? text = none) :
    (operand stack).next? (.word text) = some (afterOperand stack (.atom text)) := by
  have hop := Unary.ofWord?_eq_none h
  simp only [keywords, List.mem_cons, List.not_mem_nil, or_false, not_or] at h
  unfold next? step stepOperand
  dsimp only
  split <;> simp_all [Except.toOption]

theorem next?_quantifier (q : Quantifier) :
    (operand stack).next? (.word q.word) = some (quantifier q stack) := by
  cases q <;> rfl

theorem next?_operator {op : Binary} :
    (operator stack f).next? op.token = some (beforeOperator op stack f) := by
  cases op <;> rfl

/-- An operator that the next token does not keep from its operands takes them. -/
theorem outcome?_left {left : Binary}
    (h : ∀ t op, ts.head? = some t → Binary.ofToken? t = some op → left.takesBefore op = true) :
    (operator (.left g left :: stack) f).outcome? ts =
      (operator stack (left.apply g f)).outcome? ts := by
  refine outcome?_congr (fun t ht => ?_) rfl
  unfold next? step stepOperator
  dsimp only
  cases hop : Binary.ofToken? t with
  | none => rfl
  | some op =>
    dsimp only
    rw [beforeOperator, if_pos (h t op ht hop)]

/-- A quantifier that no bracket follows is a name. -/
theorem outcome?_quantifier {q : Quantifier} (h : ts.head? ≠ some .openSquare) :
    (quantifier q stack).outcome? ts = (afterOperand stack (.atom q.word)).outcome? ts := by
  refine outcome?_congr (fun t ht => ?_) finish_quantifier
  have hne : t ≠ .openSquare := fun he => h (he ▸ ht)
  unfold next?
  rw [step_quantifier hne]

theorem afterOperand_of_settled (h : Settled stack) (f : Formula) :
    afterOperand stack f = operator stack f := by
  cases stack with
  | nil => rfl
  | cons frame stack =>
    cases frame with
    | unary op => exact absurd rfl (h op stack)
    | left _ _ | round | reaching _ | reached _ _ => rfl

end State

/-! ### The tokens of a phrase -/

/-- The stack waits for a phrase of this level: no operator on top of it could take
only a part of the phrase as its operand. -/
def Awaits (stack : Stack) : Level → Prop
  | .unary => True
  | .binary op =>
    Settled stack ∧ ∀ g left below, stack = .left g left :: below → left.takesBefore op = false

namespace Awaits

variable {stack : Stack} {op : Binary} {f : Formula}

theorem operand (h : Awaits stack (.binary op)) : Awaits stack op.operand := by
  have hstronger : ∀ op', op.operand = .binary op' → Awaits stack (.binary op') := by
    intro op' hop'
    refine ⟨h.1, fun g left below he => ?_⟩
    have hleft := h.2 g left below he
    revert hleft hop'
    cases left <;> cases op <;> cases op' <;> decide
  cases hop : op.operand with
  | unary => exact trivial
  | binary op' => exact hstronger op' hop

/-- An operator waits for its right operand. -/
theorem left (stack : Stack) (f : Formula) (op : Binary) :
    Awaits (.left f op :: stack) op.rightOperand := by
  cases op <;> first | exact trivial | exact ⟨by rintro op below ⟨⟩, by rintro g left below ⟨⟩; rfl⟩

theorem bracket {frame : Frame} (hunary : ∀ op, frame ≠ .unary op)
    (hleft : ∀ g left, frame ≠ .left g left) (l : Level) : Awaits (frame :: stack) l := by
  cases l with
  | unary => exact trivial
  | binary op =>
    refine ⟨?_, ?_⟩
    · rintro op below ⟨⟩
      exact hunary op rfl
    · rintro g left below ⟨⟩
      exact absurd rfl (hleft g left)

theorem beforeOperator (h : Awaits stack (.binary op)) :
    State.beforeOperator op stack f = .operand (.left f op :: stack) := by
  cases stack with
  | nil => rfl
  | cons frame below =>
    cases frame with
    | left g left =>
      rw [State.beforeOperator, if_neg]
      rw [h.2 g left below rfl]
      exact Bool.false_ne_true
    | unary _ | round | reaching _ | reached _ _ => rfl

end Awaits

theorem Follows.takesBefore {op : Binary} {rest : List Token} (h : Follows (.binary op) rest)
    (t : Token) (next : Binary) (ht : rest.head? = some t) (hnext : Binary.ofToken? t = some next) :
    op.takesBefore next = true := by
  have hlt := (h t ht).2 next hnext
  revert hlt
  cases op <;> cases next <;> decide

/-- An operator that nests to the left takes its operands before the next link. -/
theorem Links.takesBefore {op : Binary} {rest : List Token} (links : Links op)
    (hop : op.nestsRight = false) (hr : Follows (.binary op) rest) (t : Token) (next : Binary)
    (ht : (links.tokens ++ rest).head? = some t) (hnext : Binary.ofToken? t = some next) :
    op.takesBefore next = true := by
  cases links with
  | done => exact hr.takesBefore t next ht hnext
  | link =>
    cases ht
    obtain rfl := Option.some.inj (op.ofToken?_token.symm.trans hnext)
    simp [Binary.takesBefore, hop]

mutual

/-- After the tokens of a phrase the parser goes on with its formula as an operand. -/
theorem Phrase.outcome?_append {l : Level} (d : Phrase l) {stack : Stack} {rest : List Token}
    (hs : Awaits stack l) (hr : Follows l rest) :
    (State.operand stack).outcome? (d.tokens ++ rest) =
      (State.afterOperand stack d.formula).outcome? rest := by
  cases d with
  | only op hop f => exact f.outcome?_append hs.operand hr.operand
  | before op hop f g =>
    have hright : op.rightOperand = .binary op := if_pos hop
    have hwaits := Awaits.left stack f.formula op
    rw [hright] at hwaits
    simp only [Phrase.tokens, Phrase.formula, List.append_assoc, List.cons_append]
    rw [f.outcome?_append hs.operand (.token op _), State.afterOperand_of_settled hs.1,
      State.outcome?_cons State.next?_operator, hs.beforeOperator, g.outcome?_append hwaits hr,
      State.afterOperand_of_settled hwaits.1, State.outcome?_left hr.takesBefore,
      State.afterOperand_of_settled hs.1]
  | chain op hop f links =>
    simp only [Phrase.tokens, Phrase.formula, List.append_assoc]
    rw [f.outcome?_append hs.operand (hr.links links), State.afterOperand_of_settled hs.1,
      links.outcome?_append hop hs hr, State.afterOperand_of_settled hs.1]
  | unary op f =>
    simp only [Phrase.tokens, List.cons_append]
    rw [State.outcome?_cons (State.next?_unary op), f.outcome?_append trivial hr]
    rfl
  | path q f g =>
    simp only [Phrase.tokens, List.cons_append, List.append_assoc, List.nil_append]
    have hreaching : Awaits (.reaching q :: stack) (.binary .iff) :=
      .bracket (by simp) (by simp) _
    have hreached : Awaits (.reached q f.formula :: stack) (.binary .iff) :=
      .bracket (by simp) (by simp) _
    have hopen : (State.quantifier q stack).next? .openSquare =
        some (.operand (.reaching q :: stack)) := rfl
    have huntil : (State.operator (.reaching q :: stack) f.formula).next? (.word "U") =
        some (.operand (.reached q f.formula :: stack)) := rfl
    rw [State.outcome?_cons (State.next?_quantifier q), State.outcome?_cons hopen,
      f.outcome?_append hreaching (.untilWord _), State.afterOperand_of_settled hreaching.1,
      State.outcome?_cons huntil, g.outcome?_append hreached (.closeSquare _),
      State.afterOperand_of_settled hreached.1, State.outcome?_cons rfl]
    rfl
  | round f =>
    simp only [Phrase.tokens, List.cons_append, List.append_assoc, List.nil_append]
    have hround : Awaits (.round :: stack) (.binary .iff) := .bracket (by simp) (by simp) _
    have hopen : (State.operand stack).next? .openRound = some (.operand (.round :: stack)) := rfl
    rw [State.outcome?_cons hopen, f.outcome?_append hround (.closeRound _),
      State.afterOperand_of_settled hround.1, State.outcome?_cons rfl]
    rfl
  | tt | ff | quoted => exact State.outcome?_cons rfl
  | name text h =>
    cases hq : Quantifier.ofWord? text with
    | none => exact State.outcome?_cons (State.next?_name h hq)
    | some q =>
      obtain rfl := Quantifier.eq_of_ofWord? hq
      have hsquare : rest.head? ≠ some .openSquare := fun he => (hr _ he).1 rfl
      exact (State.outcome?_cons (State.next?_quantifier q)).trans
        (State.outcome?_quantifier hsquare)

/-- So it does after links, with all of them taken in. -/
theorem Links.outcome?_append {op : Binary} (links : Links op) {stack : Stack} {f : Formula}
    {rest : List Token} (hop : op.nestsRight = false) (hs : Awaits stack (.binary op))
    (hr : Follows (.binary op) rest) :
    (State.operator stack f).outcome? (links.tokens ++ rest) =
      (State.operator stack (links.formula f)).outcome? rest := by
  match links with
  | .done _ => rfl
  | .link _ g links =>
    have hright : op.rightOperand = op.operand := if_neg (by simp [hop])
    have hwaits := Awaits.left stack f op
    rw [hright] at hwaits
    have hsettled : Settled (.left f op :: stack) := by rintro op below ⟨⟩
    simp only [Links.tokens, Links.formula, List.cons_append, List.append_assoc]
    rw [State.outcome?_cons State.next?_operator, hs.beforeOperator,
      g.outcome?_append hwaits (hr.links links), State.afterOperand_of_settled hsettled,
      State.outcome?_left (links.takesBefore hop hr), links.outcome?_append hop hs hr]

end

theorem toOption_parseTokens (tokens : List Lexeme) :
    (parseTokens tokens).toOption = (State.operand []).outcome? (tokens.map (·.token)) := by
  rw [parseTokens, State.outcome?, ← State.toOption_foldlM]
  cases tokens.foldlM State.step (.operand []) with
  | error e => rfl
  | ok state => rfl

theorem parseTokens_of_parses {tokens : List Lexeme} {f : Formula}
    (h : Parses (.binary .iff) (tokens.map (·.token)) f) : parseTokens tokens = .ok f := by
  obtain ⟨d, htokens, rfl⟩ := h
  have hwaits : Awaits [] (.binary .iff) := ⟨by rintro op below ⟨⟩, by rintro g left below ⟨⟩⟩
  have hread := d.outcome?_append hwaits (.nil _)
  rw [List.append_nil, htokens, ← toOption_parseTokens] at hread
  exact toOption_eq_some_iff.1 hread

/-- **The parser accepts what the grammar derives**, and reads it as the derivation
says. -/
theorem parseTokens_eq_ok_iff {tokens : List Lexeme} {f : Formula} :
    parseTokens tokens = .ok f ↔ Parses (.binary .iff) (tokens.map (·.token)) f :=
  ⟨parses_of_parseTokens, parseTokens_of_parses⟩

end BranchingTime.FormulaFile
