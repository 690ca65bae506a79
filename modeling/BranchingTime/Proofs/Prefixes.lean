/-
Errors of the parser are as early as they can be. A list of tokens that is no sentence
may still be the start of one (`Opens`). The parser goes on as long as that is so: what it
has on its stack can always be closed (`Spells.parses_closing`), so the tokens it has read
open a sentence; and a token that it refuses cannot follow them in any sentence, since it
accepts all sentences. So it complains about the end exactly if the tokens open a sentence,
and about the first token that does not fit otherwise.
-/
import BranchingTime.Proofs.Rendering

namespace BranchingTime.FormulaFile

open Text

variable {column : Nat} {text : List Char} {ts us : List Token} {tokens : List Lexeme}
  {found : Lexeme} {state : State}

/-- Some text consists of these tokens, and they derive from `iff`. -/
def IsSentence (ts : List Token) : Prop :=
  (∃ text, Cut text ts) ∧ ∃ d : Phrase (.binary .iff), d.tokens = ts

/-- Some sentence starts with these tokens. -/
def Opens (ts : List Token) : Prop := ∃ rest, IsSentence (ts ++ rest)

theorem Opens.upTo {before after : List Lexeme} {x : Lexeme}
    (h : Opens ((before ++ x :: after).map (·.token))) :
    Opens (before.map (·.token) ++ [x.token]) := by
  obtain ⟨rest, hsentence⟩ := h
  exact ⟨after.map (·.token) ++ rest, by simpa using hsentence⟩

/-! ## Tokens that can be written -/

/-- A token that can be written somewhere can be written at the end. -/
theorem Token.Fits.nil {t : Token} {rest : List Char} (h : t.Fits rest) : t.Fits [] := by
  cases t with
  | word text => exact ⟨h.1, endsWord_nil⟩
  | _ => exact h

/-- Tokens that can be written one by one can be written with blanks between them. -/
theorem exists_cut_iff : (∃ text, Cut text ts) ↔ ∀ t ∈ ts, t.Fits [] := by
  constructor
  · rintro ⟨text, hcut⟩ t ht
    obtain ⟨⟨rest, hfits⟩, -⟩ := hcut.of_mem ht
    exact hfits.nil
  · intro h
    induction ts with
    | nil => exact ⟨[], .nil⟩
    | cons t ts ih =>
      obtain ⟨hfits, hothers⟩ := List.forall_mem_cons.1 h
      obtain ⟨text, hcut⟩ := ih hothers
      refine ⟨t.text.toList ++ ' ' :: text, .token ?_ hcut.space⟩
      cases t with
      | word word => exact ⟨hfits.1, endsWord_cons (by decide +kernel)⟩
      | _ => exact hfits

/-! ## What is open can be closed -/

/-- Tokens that close all brackets on the stack. -/
def closing : Stack → List Token
  | [] => []
  | .unary _ :: stack | .left _ _ :: stack => closing stack
  | .round :: stack => .closeRound :: closing stack
  | .reaching _ :: stack => .word "U" :: .word "p" :: .closeSquare :: closing stack
  | .reached _ _ :: stack => .closeSquare :: closing stack

/-- Tokens that end the formula. -/
def State.closing : State → List Token
  | .operand stack => .word "p" :: FormulaFile.closing stack
  | .quantifier _ stack | .operator stack _ => FormulaFile.closing stack

theorem parses_p : Parses .unary [.word "p"] (.atom "p") := .name (by decide)

/-- After a phrase of the kind that the stack stands for, its brackets can be closed. -/
theorem Spells.parses_closing {stack : Stack} {l : Level} {vs : List Token} {f : Formula}
    (h : Spells stack l us) (hf : Parses l vs f) :
    ∃ g, Parses (.binary .iff) (us ++ vs ++ closing stack) g := by
  -- each frame takes the phrase as its operand, and the frames below take what comes out
  induction h generalizing vs f with
  | nil => exact ⟨f, by simpa [closing] using hf⟩
  | @unary stack l ts op h ih =>
    obtain ⟨g, hg⟩ := ih ((hf.unary op).weaken l.strength_le)
    exact ⟨g, by simpa [closing] using hg⟩
  | @left stack l ts us f' op h hf' hl ih =>
    obtain ⟨g, hg⟩ := ih ((hf'.binary hf).weaken hl)
    exact ⟨g, by simpa [closing] using hg⟩
  | @round stack l ts h ih =>
    obtain ⟨g, hg⟩ := ih (hf.round.weaken l.strength_le)
    exact ⟨g, by simpa [closing] using hg⟩
  | @reaching stack l ts q h ih =>
    have hpath := hf.path q (parses_p.weaken (Nat.zero_le _))
    obtain ⟨g, hg⟩ := ih (hpath.weaken l.strength_le)
    exact ⟨g, by simpa [closing] using hg⟩
  | @reached stack l ts us f' q h hf' ih =>
    obtain ⟨g, hg⟩ := ih ((hf'.path q hf).weaken l.strength_le)
    exact ⟨g, by simpa [closing] using hg⟩

theorem State.Spelled.parses_closing (h : state.Spelled ts) :
    ∃ g, Parses (.binary .iff) (ts ++ state.closing) g := by
  cases state with
  | operand stack =>
    obtain ⟨l, hspells⟩ := h
    obtain ⟨g, hg⟩ := hspells.parses_closing (parses_p.weaken l.strength_le)
    exact ⟨g, by simpa [State.closing] using hg⟩
  | operator stack f =>
    obtain ⟨l, us, vs, hspells, -, hf, rfl⟩ := h
    exact hspells.parses_closing (hf.weaken l.strength_le)
  | quantifier q stack =>
    obtain ⟨l, us, hspells, rfl⟩ := h
    exact hspells.parses_closing ((Parses.name q.word_not_mem_keywords).weaken l.strength_le)

theorem fits_word_p : (Token.word "p").Fits [] := ⟨by decide +kernel, endsWord_nil⟩

theorem fits_of_mem_closing (stack : Stack) : ∀ t ∈ closing stack, t.Fits [] := by
  have huntil : (Token.word "U").Fits [] := ⟨by decide +kernel, endsWord_nil⟩
  induction stack with
  | nil => simp [closing]
  | cons frame stack ih =>
    cases frame with
    | unary op | left f op => exact ih
    | round | reached q f => exact List.forall_mem_cons.2 ⟨trivial, ih⟩
    | reaching q =>
      have hend : ∀ t ∈ .closeSquare :: closing stack, t.Fits [] :=
        List.forall_mem_cons.2 ⟨trivial, ih⟩
      exact List.forall_mem_cons.2 ⟨huntil, List.forall_mem_cons.2 ⟨fits_word_p, hend⟩⟩

/-- What the parser has read opens a sentence. -/
theorem State.Spelled.opens (h : state.Spelled ts) (hts : ∀ t ∈ ts, t.Fits []) : Opens ts := by
  obtain ⟨g, d, hd, -⟩ := h.parses_closing
  have hclosing : ∀ t ∈ state.closing, t.Fits [] := by
    cases state with
    | operand stack => exact List.forall_mem_cons.2 ⟨fits_word_p, fits_of_mem_closing stack⟩
    | quantifier q stack | operator stack f => exact fits_of_mem_closing stack
  refine ⟨state.closing, exists_cut_iff.2 fun t ht => ?_, d, hd⟩
  rcases List.mem_append.1 ht with ht | ht
  · exact hts t ht
  · exact hclosing t ht

/-! ## Where the parser stops -/

theorem State.close_eq_error {stack : Stack} {f : Formula} {error : ParseError}
    (h : State.close found stack f = .error error) :
    ∃ expected, error = .unexpectedToken found expected := by
  unfold State.close at h
  split at h <;> cases h
  exact ⟨_, rfl⟩

theorem State.stepOperator_eq_error {stack : Stack} {f : Formula} {error : ParseError}
    (h : State.stepOperator found stack f = .error error) :
    ∃ expected, error = .unexpectedToken found expected := by
  unfold State.stepOperator at h
  split at h
  · cases h
  · exact close_eq_error h

theorem State.stepOperand_eq_error {stack : Stack} {error : ParseError}
    (h : State.stepOperand found stack = .error error) :
    ∃ expected, error = .unexpectedToken found expected := by
  unfold State.stepOperand at h
  split at h
  case h_7 => split at h <;> cases h
  all_goals cases h
  all_goals exact ⟨_, rfl⟩

/-- A token that does not fit is the one complained about. -/
theorem State.step_eq_error {error : ParseError} (h : state.step found = .error error) :
    ∃ expected, error = .unexpectedToken found expected := by
  cases state with
  | operand stack => exact stepOperand_eq_error h
  | operator stack f => exact stepOperator_eq_error h
  | quantifier q stack =>
    by_cases hfound : found.token = .openSquare
    · rw [State.step, if_pos hfound] at h
      cases h
    · rw [step_quantifier hfound] at h
      exact stepOperator_eq_error h

theorem State.finish_eq_error {error : ParseError} (h : state.finish = .error error) :
    ∃ expected, error = .unexpectedEnd expected := by
  have hoperator : ∀ {stack f}, State.finishOperator stack f = .error error →
      ∃ expected, error = .unexpectedEnd expected := by
    intro stack f h
    unfold State.finishOperator at h
    split at h <;> cases h
    exact ⟨_, rfl⟩
  cases state with
  | operand stack =>
    cases h
    exact ⟨_, rfl⟩
  | operator stack f => exact hoperator h
  | quantifier q stack => exact hoperator h

/-- In a list of tokens that opens a sentence no token is refused. -/
theorem exists_foldlM_eq_ok (h : Opens (tokens.map (·.token))) :
    ∃ state, tokens.foldlM State.step (.operand []) = .ok state := by
  obtain ⟨rest, -, d, hd⟩ := h
  have hparse : parseTokens (tokens ++ rest.map (⟨0, ·⟩)) = .ok d.formula :=
    parseTokens_of_parses ⟨d, by simp [hd, Function.comp_def], rfl⟩
  rw [parseTokens, List.foldlM_append] at hparse
  obtain ⟨state, hfold, -⟩ := bind_eq_ok_iff.1 hparse
  obtain ⟨middle, hmiddle, -⟩ := bind_eq_ok_iff.1 hfold
  exact ⟨middle, hmiddle⟩

/-- The token is the first of these that no sentence has after those before it. -/
def IsMisfit (tokens : List Lexeme) (found : Lexeme) : Prop :=
  ∃ before after, tokens = before ++ found :: after ∧ Opens (before.map (·.token)) ∧
    ¬Opens (before.map (·.token) ++ [found.token])

theorem IsMisfit.not_opens (h : IsMisfit tokens found) : ¬Opens (tokens.map (·.token)) := by
  obtain ⟨before, after, rfl, -, hnot⟩ := h
  intro hopens
  exact hnot hopens.upTo

/-- The first of two misfits would be among the tokens that open a sentence before the second. -/
theorem IsMisfit.eq {found' : Lexeme} (h : IsMisfit tokens found) (h' : IsMisfit tokens found') :
    found = found' := by
  obtain ⟨before, after, rfl, hopens, hnot⟩ := h
  obtain ⟨before', after', heq, hopens', hnot'⟩ := h'
  rcases List.append_eq_append_iff.1 heq with ⟨middle, hbefore, hafter⟩ | ⟨middle, hbefore, hafter⟩
  · cases middle with
    | nil => exact (List.cons.inj hafter).1
    | cons x xs =>
      obtain ⟨rfl, -⟩ := List.cons.inj hafter
      subst hbefore
      exact absurd hopens'.upTo hnot
  · cases middle with
    | nil => exact (List.cons.inj hafter).1.symm
    | cons x xs =>
      obtain ⟨rfl, -⟩ := List.cons.inj hafter
      subst hbefore
      exact absurd hopens.upTo hnot'

/-- The parser complains about the end of tokens that open a sentence, or about a misfit. -/
theorem parseTokens_eq_error {error : ParseError} (hfits : ∀ t ∈ tokens, t.token.Fits [])
    (h : parseTokens tokens = .error error) :
    (∃ expected, error = .unexpectedEnd expected) ∧ Opens (tokens.map (·.token)) ∨
      ∃ found expected, error = .unexpectedToken found expected ∧ IsMisfit tokens found := by
  have hopens : ∀ {read : List Lexeme} {state : State}, (∀ t ∈ read, t ∈ tokens) →
      read.foldlM State.step (.operand []) = .ok state → Opens (read.map (·.token)) := by
    intro read state hread hfold
    have hstart : (State.operand []).Spelled [] := ⟨_, .nil⟩
    refine (hstart.foldlM hfold).opens fun t ht => ?_
    obtain ⟨found, hfound, rfl⟩ := List.mem_map.1 ht
    exact hfits found (hread found hfound)
  rw [parseTokens] at h
  rcases bind_eq_error_iff.1 h with hfold | ⟨state, hfold, hfinish⟩
  · obtain ⟨before, found, after, state, rfl, hbefore, hstep⟩ := foldlM_eq_error_iff.1 hfold
    obtain ⟨expected, rfl⟩ := State.step_eq_error hstep
    refine .inr ⟨found, expected, rfl, before, after, rfl, ?_, fun hnot => ?_⟩
    · exact hopens (fun t ht => List.mem_append_left _ ht) hbefore
    · -- the parser would not have refused the token
      have hnot : Opens ((before ++ [found]).map (·.token)) := by simpa using hnot
      obtain ⟨next, hnext⟩ := exists_foldlM_eq_ok hnot
      rw [foldlM_eq_error_iff.2 ⟨before, found, [], state, rfl, hbefore, hstep⟩] at hnext
      cases hnext
  · exact .inl ⟨State.finish_eq_error hfinish, hopens (fun t ht => ht) hfold⟩

/-- **The parser reports the earliest possible error.** Where a text that can be cut into
tokens does not derive from `iff`, the formula ends too early exactly if the tokens are a
proper start of a sentence; otherwise there is a first token that cannot follow those before
it in a sentence, and that token is reported, with its own column and text. -/
theorem parseFormula_reports_first_misfit (hscan : scan column text = .ok tokens)
    (hnot : ¬∃ d : Phrase (.binary .iff), Cut text d.tokens) :
    ((∃ expected, parseFormula column text = .error (.unexpectedEnd expected)) ↔
      ∃ rest, rest ≠ [] ∧ IsSentence (tokens.map (·.token) ++ rest)) ∧
    (∀ found, (∃ expected, parseFormula column text = .error (.unexpectedToken found expected)) ↔
      IsMisfit tokens found) ∧
    ((∃ rest, rest ≠ [] ∧ IsSentence (tokens.map (·.token) ++ rest)) ∨
      ∃ found, IsMisfit tokens found) := by
  have hcut : Cut text (tokens.map (·.token)) := cut_of_scan hscan
  have hfits : ∀ t ∈ tokens, t.token.Fits [] :=
    fun t ht => exists_cut_iff.1 ⟨text, hcut⟩ t.token (List.mem_map_of_mem ht)
  -- a start of a sentence is a proper one, as the tokens are no sentence
  have hproper : (∃ rest, rest ≠ [] ∧ IsSentence (tokens.map (·.token) ++ rest)) ↔
      Opens (tokens.map (·.token)) := by
    constructor
    · rintro ⟨rest, -, h⟩
      exact ⟨rest, h⟩
    · rintro ⟨rest, h⟩
      refine ⟨rest, fun hnil => ?_, h⟩
      obtain ⟨-, d, hd⟩ := h
      rw [hnil, List.append_nil] at hd
      exact hnot ⟨d, hd ▸ hcut⟩
  obtain ⟨error, herror⟩ : ∃ error, parseTokens tokens = .error error := by
    cases hparse : parseTokens tokens with
    | error error => exact ⟨error, rfl⟩
    | ok f =>
      obtain ⟨d, hd, -⟩ := parseTokens_eq_ok_iff.1 hparse
      exact absurd ⟨d, hd ▸ hcut⟩ hnot
  have hformula : parseFormula column text = .error (.ofParseError error) := by
    rw [parseFormula]
    exact bind_eq_error_iff.2 (.inr ⟨tokens, mapError_eq_ok_iff.2 hscan,
      mapError_eq_error_iff.2 ⟨error, herror, rfl⟩⟩)
  rw [hproper, hformula]
  rcases parseTokens_eq_error hfits herror with
    ⟨⟨expected, rfl⟩, hopens⟩ | ⟨found, expected, rfl, hmisfit⟩
  · refine ⟨⟨fun _ => hopens, fun _ => ⟨expected, rfl⟩⟩, fun found => ?_, .inl hopens⟩
    simp only [Problem.ofParseError, Except.error.injEq, reduceCtorEq, exists_false, false_iff]
    exact fun hmisfit => hmisfit.not_opens hopens
  · refine ⟨?_, fun found' => ?_, .inr ⟨found, hmisfit⟩⟩
    · simp [Problem.ofParseError, hmisfit.not_opens]
    · simp only [Problem.ofParseError, Except.error.injEq, Problem.unexpectedToken.injEq,
        exists_and_left, exists_eq', and_true]
      constructor
      · rintro rfl
        exact hmisfit
      · exact hmisfit.eq

/-- In `E[p q]` the second name is a misfit, and `E[p` is a proper start. -/
theorem parseFormula_reports_first_misfit_until :
    let refused : List Lexeme :=
      [⟨1, .word "E"⟩, ⟨2, .openSquare⟩, ⟨3, .word "p"⟩, ⟨5, .word "q"⟩, ⟨6, .closeSquare⟩]
    let begun : List Lexeme := [⟨1, .word "E"⟩, ⟨2, .openSquare⟩, ⟨3, .word "p"⟩]
    scan 1 "E[p q]".toList = .ok refused ∧ scan 1 "E[p".toList = .ok begun ∧
    (¬∃ d : Phrase (.binary .iff), Cut "E[p q]".toList d.tokens) ∧
    (¬∃ d : Phrase (.binary .iff), Cut "E[p".toList d.tokens) ∧
    parseFormula 1 "E[p q]".toList = .error (.unexpectedToken ⟨5, .word "q"⟩ .untilWord) ∧
    IsMisfit refused ⟨5, .word "q"⟩ ∧
    parseFormula 1 "E[p".toList = .error (.unexpectedEnd .untilWord) ∧
    ∃ rest, rest ≠ [] ∧ IsSentence (begun.map (·.token) ++ rest) := by
  intro refused begun
  have hnot : ∀ {text : List Char} {problem : Problem}, parseFormula 1 text = .error problem →
      ¬∃ d : Phrase (.binary .iff), Cut text d.tokens := by
    rintro text problem herror ⟨d, hcut⟩
    cases herror.symm.trans (parseFormula_eq_ok_iff.2 ⟨d, hcut, rfl⟩)
  have hrefused : scan 1 "E[p q]".toList = .ok refused :=
    toOption_eq_some_iff.1 (by decide +kernel)
  have hopen : scan 1 "E[p".toList = .ok begun := toOption_eq_some_iff.1 (by decide +kernel)
  have htoken : parseFormula 1 "E[p q]".toList =
      .error (.unexpectedToken ⟨5, .word "q"⟩ .untilWord) :=
    error?_eq_some_iff.1 (by decide +kernel)
  have hend : parseFormula 1 "E[p".toList = .error (.unexpectedEnd .untilWord) :=
    error?_eq_some_iff.1 (by decide +kernel)
  obtain ⟨-, hmisfit, -⟩ := parseFormula_reports_first_misfit hrefused (hnot htoken)
  obtain ⟨hstart, -⟩ := parseFormula_reports_first_misfit hopen (hnot hend)
  exact ⟨hrefused, hopen, hnot htoken, hnot hend, htoken, (hmisfit _).1 ⟨_, htoken⟩, hend,
    hstart.1 ⟨_, hend⟩⟩

end BranchingTime.FormulaFile
