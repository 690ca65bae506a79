/-
The grammar of written formulas. From the weakest to the strongest binding,

    iff   := imp [ "<->" iff ]
    imp   := disj [ "->" imp ]
    disj  := conj { "||" conj }
    conj  := unary { "&&" unary }
    unary := "!" unary | ("EX" | "AX" | "EG" | "AG" | "EF" | "AF") unary
           | ("E" | "A") "[" iff "U" iff "]" | "(" iff ")"
           | "true" | "false" | name | quoted text

where a name is any word but the keywords. A `Phrase` is a derivation from one of
the five symbols: its `tokens` are what it derives, and its `formula` is how that
is read. The first two rules have one shape, and so have the next two.

No two derivations from one symbol have the same tokens (`Phrase.eq_of_tokens`).
What may follow a phrase carries the induction: neither an operator that the
phrase itself could have taken in, nor the bracket that makes a quantifier of a
name (`Follows`).
-/
import BranchingTime.FormulaFile.Parser

namespace BranchingTime.FormulaFile

/-- The words that are no names. -/
def keywords : List String := ["true", "false", "EX", "AX", "EG", "AG", "EF", "AF", "U"]

/-- The symbols of the grammar: one for each connective, and one for what has no
connective outside brackets. -/
inductive Level where
  | binary (op : Binary)
  | unary
deriving DecidableEq

/-- The token of an operator. -/
def Unary.token : Unary → Token
  | neg => .bang
  | ex => .word "EX"
  | ax => .word "AX"
  | eg => .word "EG"
  | ag => .word "AG"
  | ef => .word "EF"
  | af => .word "AF"

namespace Binary

/-- The token of an operator. -/
def token : Binary → Token
  | iff => .doubleArrow
  | imp => .arrow
  | disj => .bars
  | conj => .ampersands

/-- What an operator joins. -/
def operand : Binary → Level
  | iff => .binary imp
  | imp => .binary disj
  | disj => .binary conj
  | conj => .unary

end Binary

/-- How strongly the phrases of a symbol hold together. -/
def Level.strength : Level → Nat
  | binary op => op.strength
  | unary => 4

mutual

/-- The derivations from a symbol. -/
inductive Phrase : Level → Type where
  /-- An operand alone, where the operator nests to the right. -/
  | only (op : Binary) (h : op.nestsRight = true) (f : Phrase op.operand) : Phrase (.binary op)
  /-- An operand, the operator and the rest. -/
  | before (op : Binary) (h : op.nestsRight = true) (f : Phrase op.operand)
    (g : Phrase (.binary op)) : Phrase (.binary op)
  /-- An operand and any number of further ones, where the operator nests to the left. -/
  | chain (op : Binary) (h : op.nestsRight = false) (f : Phrase op.operand) (links : Links op) :
    Phrase (.binary op)
  | unary (op : Unary) (f : Phrase .unary) : Phrase .unary
  | path (q : Quantifier) (f g : Phrase (.binary .iff)) : Phrase .unary
  | round (f : Phrase (.binary .iff)) : Phrase .unary
  | tt : Phrase .unary
  | ff : Phrase .unary
  | name (text : String) (h : text ∉ keywords) : Phrase .unary
  | quoted (text : String) : Phrase .unary

/-- Any number of operators, each with the operand after it. -/
inductive Links : Binary → Type where
  | done (op : Binary) : Links op
  | link (op : Binary) (f : Phrase op.operand) (links : Links op) : Links op

end

mutual

/-- What a phrase derives. -/
def Phrase.tokens : {l : Level} → Phrase l → List Token
  | _, .only _ _ f => f.tokens
  | _, .before op _ f g => f.tokens ++ op.token :: g.tokens
  | _, .chain _ _ f links => f.tokens ++ links.tokens
  | _, .unary op f => op.token :: f.tokens
  | _, .path q f g =>
    .word q.word :: .openSquare :: (f.tokens ++ .word "U" :: (g.tokens ++ [.closeSquare]))
  | _, .round f => .openRound :: (f.tokens ++ [.closeRound])
  | _, .tt => [.word "true"]
  | _, .ff => [.word "false"]
  | _, .name text _ => [.word text]
  | _, .quoted text => [.quoted text]

def Links.tokens : {op : Binary} → Links op → List Token
  | _, .done _ => []
  | _, .link op f links => op.token :: (f.tokens ++ links.tokens)

end

mutual

/-- How a phrase is read. -/
def Phrase.formula : {l : Level} → Phrase l → Formula
  | _, .only _ _ f => f.formula
  | _, .before op _ f g => op.apply f.formula g.formula
  | _, .chain _ _ f links => links.formula f.formula
  | _, .unary op f => op.apply f.formula
  | _, .path q f g => q.apply f.formula g.formula
  | _, .round f => f.formula
  | _, .tt => .tt
  | _, .ff => .ff
  | _, .name text _ => .atom text
  | _, .quoted text => .atom text

/-- How links are read after a left operand, which takes in one operand after the
other. -/
def Links.formula : {op : Binary} → Links op → Formula → Formula
  | _, .done _, f => f
  | _, .link op g links, f => links.formula (op.apply f g.formula)

end

/-! ## Operators -/

theorem Binary.ofToken?_token (op : Binary) : Binary.ofToken? op.token = some op := by
  cases op <;> rfl

theorem Binary.strength_operand (op : Binary) : op.operand.strength = op.strength + 1 := by
  cases op <;> rfl

theorem Binary.token_ne_openSquare (op : Binary) : op.token ≠ .openSquare := by
  cases op <;> decide

/-! ## One derivation for one list of tokens -/

/-- What may come after a phrase of this level: the end, or a token that does not
make the phrase go on. -/
def Follows (l : Level) (rest : List Token) : Prop :=
  ∀ t, rest.head? = some t → t ≠ .openSquare ∧
    ∀ op, Binary.ofToken? t = some op → op.strength < l.strength

theorem Follows.nil (l : Level) : Follows l [] := by
  intro t h
  cases h

theorem Follows.mono {l l' : Level} {rest : List Token} (h : Follows l rest)
    (hl : l.strength ≤ l'.strength) : Follows l' rest := by
  intro t ht
  obtain ⟨hsquare, hop⟩ := h t ht
  exact ⟨hsquare, fun op ho => Nat.lt_of_lt_of_le (hop op ho) hl⟩

theorem Follows.operand {op : Binary} {rest : List Token} (h : Follows (.binary op) rest) :
    Follows op.operand rest := by
  refine h.mono ?_
  rw [op.strength_operand]
  exact Nat.le_succ _

/-- An operator may come after its operand. -/
theorem Follows.token (op : Binary) (rest : List Token) :
    Follows op.operand (op.token :: rest) := by
  rintro t ⟨⟩
  refine ⟨op.token_ne_openSquare, fun op' h => ?_⟩
  obtain rfl := Option.some.inj (op.ofToken?_token.symm.trans h)
  rw [op.strength_operand]
  exact Nat.lt_succ_self _

/-- So may links, and what comes after them. -/
theorem Follows.links {op : Binary} {rest : List Token} (h : Follows (.binary op) rest)
    (links : Links op) : Follows op.operand (links.tokens ++ rest) := by
  cases links with
  | done => exact h.operand
  | link f links => exact .token op _

/-- A bracket or a keyword that closes may come after everything. -/
theorem Follows.closer {t : Token} (l : Level) (rest : List Token) (hop : Binary.ofToken? t = none)
    (hsquare : t ≠ .openSquare) : Follows l (t :: rest) := by
  rintro _ ⟨⟩
  refine ⟨hsquare, fun op h => ?_⟩
  rw [hop] at h
  cases h

theorem Follows.closeRound {l : Level} (rest : List Token) : Follows l (.closeRound :: rest) :=
  .closer l rest rfl (by decide)

theorem Follows.closeSquare {l : Level} (rest : List Token) : Follows l (.closeSquare :: rest) :=
  .closer l rest rfl (by decide)

theorem Follows.untilWord {l : Level} (rest : List Token) : Follows l (.word "U" :: rest) :=
  .closer l rest rfl (by decide)

theorem not_follows_token (op : Binary) (rest : List Token) :
    ¬Follows (.binary op) (op.token :: rest) := by
  intro h
  exact Nat.lt_irrefl _ ((h _ rfl).2 op op.ofToken?_token)

/-- The rules for `unary`, told apart by what their tokens start with. -/
inductive Head where
  | unary (op : Unary)
  | path (q : Quantifier)
  | round
  | tt
  | ff
  | name (text : String)
  | quoted (text : String)

/-- The rule of a phrase. -/
def Phrase.head : Phrase .unary → Head
  | .unary op _ => .unary op
  | .path q _ _ => .path q
  | .round _ => .round
  | .tt => .tt
  | .ff => .ff
  | .name text _ => .name text
  | .quoted text => .quoted text

/-- The rule for a phrase that starts with a word, by the token after it. -/
def Head.ofWord (text : String) (next : Option Token) : Head :=
  if text = "true" then .tt
  else if text = "false" then .ff
  else
    match Unary.ofWord? text, Quantifier.ofWord? text with
    | some op, _ => .unary op
    | none, some q => if next = some .openSquare then .path q else .name text
    | none, none => .name text

/-- The rule that the first two tokens leave. -/
def Head.ofTokens? : List Token → Option Head
  | .bang :: _ => some (.unary .neg)
  | .openRound :: _ => some .round
  | .quoted text :: _ => some (.quoted text)
  | .word text :: rest => some (.ofWord text rest.head?)
  | _ => none

/-- A name that is no keyword is no operator. -/
theorem Unary.ofWord?_eq_none {text : String} (h : text ∉ keywords) :
    Unary.ofWord? text = none := by
  simp only [keywords, List.mem_cons, List.not_mem_nil, or_false, not_or] at h
  unfold Unary.ofWord?
  split <;> simp_all

theorem Quantifier.eq_of_ofWord? {text : String} {q : Quantifier}
    (h : Quantifier.ofWord? text = Option.some q) : text = q.word := by
  unfold Quantifier.ofWord? at h
  split at h <;> cases h <;> rfl

theorem Head.ofWord_name {text : String} {next : Option Token} (h : text ∉ keywords)
    (hnext : next ≠ some .openSquare) : Head.ofWord text next = .name text := by
  have htrue : text ≠ "true" := fun he => h (by simp [he, keywords])
  have hfalse : text ≠ "false" := fun he => h (by simp [he, keywords])
  rw [Head.ofWord, if_neg htrue, if_neg hfalse, Unary.ofWord?_eq_none h]
  cases Quantifier.ofWord? text with
  | none => rfl
  | some q => simp [hnext]

/-- The first two tokens of a phrase tell its rule. -/
theorem Phrase.ofTokens?_append (d : Phrase .unary) {rest : List Token}
    (hr : Follows .unary rest) : Head.ofTokens? (d.tokens ++ rest) = some d.head := by
  cases d with
  | unary op f => cases op <;> rfl
  | path q f g => cases q <;> rfl
  | round f | tt | ff | quoted text => rfl
  | name text h =>
    have hnext : rest.head? ≠ some .openSquare := fun he => (hr _ he).1 rfl
    exact congrArg some (Head.ofWord_name h hnext)

/-- Phrases that start the same way are made by the same rule. -/
theorem Phrase.head_eq_of_append {d d' : Phrase .unary} {rest rest' : List Token}
    (hr : Follows .unary rest) (hr' : Follows .unary rest')
    (h : d.tokens ++ rest = d'.tokens ++ rest') : d.head = d'.head := by
  have hhead := d.ofTokens?_append hr
  rw [h, d'.ofTokens?_append hr'] at hhead
  exact (Option.some.inj hhead).symm

mutual

theorem Phrase.eq_of_append {l : Level} {rest rest' : List Token} (d d' : Phrase l)
    (hr : Follows l rest) (hr' : Follows l rest') (h : d.tokens ++ rest = d'.tokens ++ rest') :
    d = d' ∧ rest = rest' := by
  cases d with
  | only op hop f =>
    cases d' with
    | only _ _ f' =>
      obtain ⟨rfl, hrest⟩ := f.eq_of_append f' hr.operand hr'.operand h
      exact ⟨rfl, hrest⟩
    | before _ _ f' g' =>
      simp only [Phrase.tokens, List.append_assoc, List.cons_append] at h
      obtain ⟨-, rfl⟩ := f.eq_of_append f' hr.operand (.token op _) h
      exact absurd hr (not_follows_token op _)
    | chain _ hop' => cases hop.symm.trans hop'
  | before op hop f g =>
    simp only [Phrase.tokens, List.append_assoc, List.cons_append] at h
    cases d' with
    | only _ _ f' =>
      obtain ⟨-, rfl⟩ := f.eq_of_append f' (.token op _) hr'.operand h
      exact absurd hr' (not_follows_token op _)
    | before _ _ f' g' =>
      simp only [Phrase.tokens, List.append_assoc, List.cons_append] at h
      obtain ⟨rfl, hg⟩ := f.eq_of_append f' (.token op _) (.token op _) h
      obtain ⟨rfl, hrest⟩ := g.eq_of_append g' hr hr' (List.cons.inj hg).2
      exact ⟨rfl, hrest⟩
    | chain _ hop' => cases hop.symm.trans hop'
  | chain op hop f links =>
    cases d' with
    | only _ hop' | before _ hop' => cases hop.symm.trans hop'
    | chain _ _ f' links' =>
      simp only [Phrase.tokens, List.append_assoc] at h
      obtain ⟨rfl, hlinks⟩ := f.eq_of_append f' (hr.links links) (hr'.links links') h
      obtain ⟨rfl, hrest⟩ := links.eq_of_append links' hr hr' hlinks
      exact ⟨rfl, hrest⟩
  | unary op f =>
    have hhead := Phrase.head_eq_of_append hr hr' h
    cases d' with
    | unary op' f' =>
      obtain rfl : op = op' := Head.unary.inj hhead
      obtain ⟨rfl, hrest⟩ := f.eq_of_append f' hr hr' (List.cons.inj h).2
      exact ⟨rfl, hrest⟩
    | path | round | tt | ff | name | quoted => cases hhead
  | path q f g =>
    have hhead := Phrase.head_eq_of_append hr hr' h
    cases d' with
    | path q' f' g' =>
      obtain rfl : q = q' := Head.path.inj hhead
      simp only [Phrase.tokens, List.cons_append, List.append_assoc, List.cons.injEq, true_and,
        List.nil_append] at h
      obtain ⟨rfl, hg⟩ := f.eq_of_append f' (.untilWord _) (.untilWord _) h
      obtain ⟨rfl, hend⟩ :=
        g.eq_of_append g' (.closeSquare _) (.closeSquare _) (List.cons.inj hg).2
      exact ⟨rfl, (List.cons.inj hend).2⟩
    | unary | round | tt | ff | name | quoted => cases hhead
  | round f =>
    have hhead := Phrase.head_eq_of_append hr hr' h
    cases d' with
    | round f' =>
      simp only [Phrase.tokens, List.cons_append, List.append_assoc, List.cons.injEq, true_and,
        List.nil_append] at h
      obtain ⟨rfl, hend⟩ := f.eq_of_append f' (.closeRound _) (.closeRound _) h
      exact ⟨rfl, (List.cons.inj hend).2⟩
    | unary | path | tt | ff | name | quoted => cases hhead
  | tt =>
    have hhead := Phrase.head_eq_of_append hr hr' h
    cases d' with
    | tt => exact ⟨rfl, (List.cons.inj h).2⟩
    | unary | path | round | ff | name | quoted => cases hhead
  | ff =>
    have hhead := Phrase.head_eq_of_append hr hr' h
    cases d' with
    | ff => exact ⟨rfl, (List.cons.inj h).2⟩
    | unary | path | round | tt | name | quoted => cases hhead
  | name text =>
    have hhead := Phrase.head_eq_of_append hr hr' h
    cases d' with
    | name text' =>
      obtain rfl : text = text' := Head.name.inj hhead
      exact ⟨rfl, (List.cons.inj h).2⟩
    | unary | path | round | tt | ff | quoted => cases hhead
  | quoted text =>
    have hhead := Phrase.head_eq_of_append hr hr' h
    cases d' with
    | quoted text' =>
      obtain rfl : text = text' := Head.quoted.inj hhead
      exact ⟨rfl, (List.cons.inj h).2⟩
    | unary | path | round | tt | ff | name => cases hhead

theorem Links.eq_of_append {op : Binary} {rest rest' : List Token} (d d' : Links op)
    (hr : Follows (.binary op) rest) (hr' : Follows (.binary op) rest')
    (h : d.tokens ++ rest = d'.tokens ++ rest') : d = d' ∧ rest = rest' := by
  match d, d' with
  | .done _, .done _ => exact ⟨rfl, h⟩
  | .done _, .link _ f' links' =>
    obtain rfl : rest = _ := h
    exact absurd hr (not_follows_token op _)
  | .link _ f links, .done _ =>
    obtain rfl : _ = rest' := h
    exact absurd hr' (not_follows_token op _)
  | .link _ f links, .link _ f' links' =>
    simp only [Links.tokens, List.cons_append, List.append_assoc, List.cons.injEq, true_and] at h
    obtain ⟨rfl, hlinks⟩ := f.eq_of_append f' (hr.links links) (hr'.links links') h
    obtain ⟨rfl, hrest⟩ := links.eq_of_append links' hr hr' hlinks
    exact ⟨rfl, hrest⟩

end

/-- **The grammar is unambiguous.** Two derivations from one symbol that derive the
same tokens are the same. -/
theorem Phrase.eq_of_tokens {l : Level} {d d' : Phrase l} (h : d.tokens = d'.tokens) : d = d' :=
  (d.eq_of_append d' (.nil l) (.nil l) (congrArg (· ++ []) h)).1

/-! ## Phrases from smaller ones -/

/-- The tokens are derived from the symbol, and read as the formula. -/
def Parses (l : Level) (ts : List Token) (f : Formula) : Prop :=
  ∃ d : Phrase l, d.tokens = ts ∧ d.formula = f

namespace Binary

/-- What stands to the left of an operator. -/
def leftOperand (op : Binary) : Level := if op.nestsRight then op.operand else .binary op

/-- What stands to the right of an operator. -/
def rightOperand (op : Binary) : Level := if op.nestsRight then .binary op else op.operand

theorem leftOperand_le_of_takesBefore {left op : Binary} (h : left.takesBefore op = true) :
    op.leftOperand.strength ≤ left.strength := by
  revert h
  cases left <;> cases op <;> decide

theorem rightOperand_le_of_not_takesBefore {left op : Binary} (h : left.takesBefore op = false) :
    left.rightOperand.strength ≤ op.strength := by
  revert h
  cases left <;> cases op <;> decide

theorem strength_lt (op : Binary) : op.strength < 4 := by
  cases op <;> decide

end Binary

theorem Level.strength_le (l : Level) : l.strength ≤ 4 := by
  cases l with
  | binary op => exact Nat.le_of_lt op.strength_lt
  | unary => exact Nat.le_refl 4

theorem Level.eq_of_strength {l l' : Level} (h : l.strength = l'.strength) : l = l' := by
  cases l with
  | unary =>
    cases l' with
    | unary => rfl
    | binary op => exact absurd h.symm (Nat.ne_of_lt op.strength_lt)
  | binary op =>
    cases l' with
    | unary => exact absurd h (Nat.ne_of_lt op.strength_lt)
    | binary op' =>
      revert h
      cases op <;> cases op' <;> decide

/-- Links with one more at their end. -/
theorem Links.exists_snoc {op : Binary} (links : Links op) (d : Phrase op.operand) :
    ∃ longer : Links op, longer.tokens = links.tokens ++ op.token :: d.tokens ∧
      ∀ f, longer.formula f = op.apply (links.formula f) d.formula := by
  match links with
  | .done _ =>
    refine ⟨.link op d (.done op), ?_, fun f => rfl⟩
    simp only [Links.tokens, List.append_nil, List.nil_append]
  | .link _ g links =>
    obtain ⟨longer, htokens, hformula⟩ := links.exists_snoc d
    refine ⟨.link op g longer, ?_, fun f => hformula _⟩
    simp only [Links.tokens, htokens, List.cons_append, List.append_assoc]

namespace Parses

variable {l l' : Level} {op : Binary} {ts us : List Token} {f g : Formula}

theorem of_operand (h : Parses op.operand ts f) : Parses (.binary op) ts f := by
  obtain ⟨d, rfl, rfl⟩ := h
  cases hop : op.nestsRight with
  | true => exact ⟨.only op hop d, rfl, rfl⟩
  | false => exact ⟨.chain op hop d (.done op), List.append_nil _, rfl⟩

/-- A phrase of a stronger symbol is one of every weaker symbol. -/
theorem weaken (h : Parses l ts f) (hl : l'.strength ≤ l.strength) : Parses l' ts f := by
  obtain ⟨n, hn⟩ := Nat.exists_eq_add_of_le hl
  induction n generalizing l' with
  | zero => exact Level.eq_of_strength hn ▸ h
  | succ n ih =>
    cases l' with
    | unary =>
      have hle := l.strength_le
      have hunary : Level.unary.strength = 4 := rfl
      omega
    | binary op =>
      have hstrength := op.strength_operand
      have hbinary : (Level.binary op).strength = op.strength := rfl
      exact (ih (by omega) (by omega)).of_operand

/-- Two phrases and the operator between them. -/
theorem binary (hf : Parses op.leftOperand ts f) (hg : Parses op.rightOperand us g) :
    Parses (.binary op) (ts ++ op.token :: us) (op.apply f g) := by
  unfold Binary.leftOperand at hf
  unfold Binary.rightOperand at hg
  cases hop : op.nestsRight with
  | true =>
    rw [if_pos hop] at hf hg
    obtain ⟨d, rfl, rfl⟩ := hf
    obtain ⟨e, rfl, rfl⟩ := hg
    exact ⟨.before op hop d e, rfl, rfl⟩
  | false =>
    rw [if_neg (by simp [hop])] at hf hg
    obtain ⟨d, rfl, rfl⟩ := hf
    obtain ⟨e, rfl, rfl⟩ := hg
    cases d with
    | only _ hop' | before _ hop' => cases hop.symm.trans hop'
    | chain _ _ d links =>
      obtain ⟨longer, htokens, hformula⟩ := links.exists_snoc e
      refine ⟨.chain op hop d longer, ?_, hformula _⟩
      simp only [Phrase.tokens, htokens, List.append_assoc]

theorem unary (op : Unary) (h : Parses .unary ts f) :
    Parses .unary (op.token :: ts) (op.apply f) := by
  obtain ⟨d, rfl, rfl⟩ := h
  exact ⟨.unary op d, rfl, rfl⟩

theorem round (h : Parses (.binary .iff) ts f) :
    Parses .unary (.openRound :: (ts ++ [.closeRound])) f := by
  obtain ⟨d, rfl, rfl⟩ := h
  exact ⟨.round d, rfl, rfl⟩

theorem path (q : Quantifier) (hf : Parses (.binary .iff) ts f) (hg : Parses (.binary .iff) us g) :
    Parses .unary (.word q.word :: .openSquare :: (ts ++ .word "U" :: (us ++ [.closeSquare])))
      (q.apply f g) := by
  obtain ⟨d, rfl, rfl⟩ := hf
  obtain ⟨e, rfl, rfl⟩ := hg
  exact ⟨.path q d e, rfl, rfl⟩

theorem name {text : String} (h : text ∉ keywords) : Parses .unary [.word text] (.atom text) :=
  ⟨.name text h, rfl, rfl⟩

end Parses

end BranchingTime.FormulaFile
