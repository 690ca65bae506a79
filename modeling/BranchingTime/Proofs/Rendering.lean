/-
Rendered formulas as text. A formula is read back from its rendering exactly if all
its propositions have names that are written as one word and read as a name. Any
other name is written just the same, but then something else is read: an operator,
several tokens, or a quoted text that is not closed.

One direction cuts the rendering into the tokens of the formula, in front of any text
that ends a word (`exists_covers_render`). The other one looks at quotes: a name that
is no word could only be read from quotes, which no operator has and which no name
read from quotes can bring in (`isWord_of_cut`).
-/
import BranchingTime.Formula.Basic
import BranchingTime.Proofs.Entries

namespace BranchingTime

open FormulaFile Text

/-! ## The shapes of formulas -/

namespace Formula

variable {c : Char} {p : String}

/-- Formulas by how they are written. -/
theorem shape_induction {P : Formula → Prop} (tt : P .tt) (ff : P .ff)
    (atom : ∀ name, P (.atom name)) (unary : ∀ (op : Unary) f, P f → P (op.apply f))
    (binary : ∀ (op : Binary) f g, P f → P g → P (op.apply f g))
    (path : ∀ (q : Quantifier) f g, P f → P g → P (q.apply f g)) (f : Formula) : P f := by
  induction f with
  | tt => exact tt
  | ff => exact ff
  | atom name => exact atom name
  | neg f ih => exact unary .neg f ih
  | ex f ih => exact unary .ex f ih
  | ax f ih => exact unary .ax f ih
  | eg f ih => exact unary .eg f ih
  | ag f ih => exact unary .ag f ih
  | ef f ih => exact unary .ef f ih
  | af f ih => exact unary .af f ih
  | conj f g ihf ihg => exact binary .conj f g ihf ihg
  | disj f g ihf ihg => exact binary .disj f g ihf ihg
  | imp f g ihf ihg => exact binary .imp f g ihf ihg
  | iff f g ihf ihg => exact binary .iff f g ihf ihg
  | eu f g ihf ihg => exact path .some f g ihf ihg
  | au f g ihf ihg => exact path .every f g ihf ihg

theorem mem_atoms_unary {op : Unary} {f : Formula} : p ∈ (op.apply f).atoms ↔ p ∈ f.atoms := by
  cases op <;> rfl

theorem mem_atoms_binary {op : Binary} {f g : Formula} :
    p ∈ (op.apply f g).atoms ↔ p ∈ f.atoms ∨ p ∈ g.atoms := by
  cases op <;> exact Std.ExtTreeSet.mem_union_iff

theorem mem_atoms_path {q : Quantifier} {f g : Formula} :
    p ∈ (q.apply f g).atoms ↔ p ∈ f.atoms ∨ p ∈ g.atoms := by
  cases q <;> exact Std.ExtTreeSet.mem_union_iff

/-- What stands between a prefixed operator and its operand. -/
def gap : Unary → List Char
  | .neg => []
  | _ => [' ']

theorem toList_render_unary (op : Unary) (f : Formula) :
    (op.apply f).render.toList = op.token.text.toList ++ (gap op ++ f.render.toList) := by
  cases op <;> simp [Unary.apply, render, Unary.token, Token.text, gap]

theorem toList_render_binary (op : Binary) (f g : Formula) :
    (op.apply f g).render.toList = '(' :: (f.render.toList ++
      ' ' :: (op.token.text.toList ++ ' ' :: (g.render.toList ++ [')']))) := by
  cases op <;> simp [Binary.apply, render, Binary.token, Token.text]

theorem toList_render_path (q : Quantifier) (f g : Formula) :
    (q.apply f g).render.toList = q.word.toList ++ '[' :: (f.render.toList ++
      ' ' :: 'U' :: ' ' :: (g.render.toList ++ [']'])) := by
  cases q <;> simp [Quantifier.apply, render, Quantifier.word]

/-- Whether the character is one of operators, brackets and constants. -/
def isSign (c : Char) : Bool := "AEFGUXaeflrstu !&()-<>[]|".toList.contains c

/-- All other characters of a rendered formula are those of its propositions. -/
theorem mem_render {f : Formula} (h : c ∈ f.render.toList) :
    isSign c = true ∨ ∃ p ∈ f.atoms, c ∈ p.toList := by
  induction f using shape_induction with
  | tt =>
    have htrue : "true".toList.all isSign = true := by decide
    exact .inl (List.all_eq_true.1 htrue c h)
  | ff =>
    have hfalse : "false".toList.all isSign = true := by decide
    exact .inl (List.all_eq_true.1 hfalse c h)
  | atom name => exact .inr ⟨name, by simp [atoms], h⟩
  | unary op f ih =>
    have hop : (op.token.text.toList ++ gap op).all isSign = true := by cases op <;> decide
    rw [toList_render_unary, ← List.append_assoc, List.mem_append] at h
    simp only [mem_atoms_unary]
    exact h.elim (fun hc => .inl (List.all_eq_true.1 hop c hc)) ih
  | binary op f g ihf ihg =>
    have hop : op.token.text.toList.all isSign = true := by cases op <;> decide
    have hsigns : isSign '(' = true ∧ isSign ' ' = true ∧ isSign ')' = true := by decide
    simp only [toList_render_binary, List.mem_cons, List.mem_append, List.not_mem_nil,
      or_false] at h
    simp only [mem_atoms_binary]
    rw [List.all_eq_true] at hop
    grind
  | path q f g ihf ihg =>
    have hq : q.word.toList.all isSign = true := by cases q <;> decide
    have hsigns : isSign '[' = true ∧ isSign ' ' = true ∧ isSign 'U' = true ∧
        isSign ']' = true := by decide
    simp only [toList_render_path, List.mem_cons, List.mem_append, List.not_mem_nil,
      or_false] at h
    simp only [mem_atoms_path]
    rw [List.all_eq_true] at hq
    grind

end Formula

namespace FormulaFile

variable {c : Char} {cs rest : List Char} {ts us : List Token} {f : Formula} {p : String}

/-! ## Reading a rendered formula -/

theorem endsWord_nil : EndsWord [] := by
  intro c hc
  cases hc

theorem endsWord_cons (h : Token.continuesWord c = false) : EndsWord (c :: rest) := by
  intro d hd
  cases hd
  exact h

theorem Cut.word {text : String} (htext : IsWord text) (hrest : EndsWord rest) (h : Cut rest ts) :
    Cut (text.toList ++ rest) (.word text :: ts) :=
  .token (t := .word text) ⟨htext, hrest⟩ h

theorem Cut.space (h : Cut cs ts) : Cut (' ' :: cs) ts := .blank (by decide) h

theorem isWord_of_mem_keywords {text : String} (h : text ∈ keywords) : IsWord text := by
  have hwords : ∀ text ∈ keywords, IsWord text := by decide +kernel
  exact hwords text h

theorem Quantifier.isWord_word (q : Quantifier) : IsWord q.word := by
  cases q <;> decide +kernel

/-- The text is cut into these tokens, whatever follows that ends a word. -/
def Covers (cs : List Char) (ts : List Token) : Prop :=
  ∀ rest us, EndsWord rest → Cut rest us → Cut (cs ++ rest) (ts ++ us)

theorem covers_unary (op : Unary) (h : Covers f.render.toList ts) :
    Covers (op.apply f).render.toList (op.token :: ts) := by
  intro rest us hrest hus
  have hoperand := h rest us hrest hus
  have hspace : EndsWord (' ' :: (f.render.toList ++ rest)) := endsWord_cons (by decide +kernel)
  rw [Formula.toList_render_unary, List.append_assoc, List.append_assoc, List.cons_append]
  cases op with
  | neg => exact .token (t := .bang) trivial hoperand
  | ex | ax | eg | ag | ef | af =>
    exact .word (isWord_of_mem_keywords (by decide)) hspace hoperand.space

theorem covers_binary {g : Formula} (op : Binary) (hf : Covers f.render.toList ts)
    (hg : Covers g.render.toList us) :
    Covers (op.apply f g).render.toList
      (.openRound :: ((ts ++ op.token :: us) ++ [.closeRound])) := by
  intro rest vs hrest hvs
  have hclose : Cut (')' :: rest) (.closeRound :: vs) := .token (t := .closeRound) trivial hvs
  have hright := hg _ _ (endsWord_cons (by decide +kernel)) hclose
  have hop : Cut (op.token.text.toList ++ ' ' :: (g.render.toList ++ ')' :: rest))
      (op.token :: (us ++ .closeRound :: vs)) :=
    .token (by cases op <;> trivial) hright.space
  have hleft := hf _ _ (endsWord_cons (by decide +kernel)) hop.space
  have hopen := Cut.token (t := .openRound) trivial hleft
  simpa [Formula.toList_render_binary, Token.text] using hopen

theorem covers_path {g : Formula} (q : Quantifier) (hf : Covers f.render.toList ts)
    (hg : Covers g.render.toList us) :
    Covers (q.apply f g).render.toList
      (.word q.word :: .openSquare :: (ts ++ .word "U" :: (us ++ [.closeSquare]))) := by
  intro rest vs hrest hvs
  have hclose : Cut (']' :: rest) (.closeSquare :: vs) := .token (t := .closeSquare) trivial hvs
  have hright := hg _ _ (endsWord_cons (by decide +kernel)) hclose
  have hword : IsWord "U" := isWord_of_mem_keywords (by decide)
  have huntil := hright.space.word hword (endsWord_cons (by decide +kernel))
  have hleft := hf _ _ (endsWord_cons (by decide +kernel)) huntil.space
  have hopen : Cut ('[' :: (f.render.toList ++ ' ' :: ("U".toList ++ ' ' ::
      (g.render.toList ++ ']' :: rest))))
      (.openSquare :: (ts ++ .word "U" :: (us ++ .closeSquare :: vs))) :=
    .token (t := .openSquare) trivial hleft
  have hall := hopen.word q.isWord_word (endsWord_cons (by decide +kernel))
  simpa [Formula.toList_render_path] using hall

/-- The text of a formula with plain names has the tokens of the formula. -/
theorem exists_covers_render (h : ∀ p ∈ f.atoms, IsWord p ∧ p ∉ keywords) :
    ∃ ts, Covers f.render.toList ts ∧ Parses .unary ts f := by
  induction f using Formula.shape_induction with
  | tt =>
    have htrue : IsWord "true" := isWord_of_mem_keywords (by decide)
    exact ⟨[.word "true"], fun rest us hrest hus => hus.word htrue hrest, .tt, rfl, rfl⟩
  | ff =>
    have hfalse : IsWord "false" := isWord_of_mem_keywords (by decide)
    exact ⟨[.word "false"], fun rest us hrest hus => hus.word hfalse hrest, .ff, rfl, rfl⟩
  | atom name =>
    obtain ⟨hword, hkeyword⟩ := h name (by simp [Formula.atoms])
    exact ⟨[.word name], fun rest us hrest hus => hus.word hword hrest, .name hkeyword⟩
  | unary op f ih =>
    simp only [Formula.mem_atoms_unary] at h
    obtain ⟨ts, hts, hparses⟩ := ih h
    exact ⟨op.token :: ts, covers_unary op hts, hparses.unary op⟩
  | binary op f g ihf ihg =>
    simp only [Formula.mem_atoms_binary] at h
    obtain ⟨ts, hts, hf⟩ := ihf fun p hp => h p (.inl hp)
    obtain ⟨us, hus, hg⟩ := ihg fun p hp => h p (.inr hp)
    have hboth : Parses (.binary op) (ts ++ op.token :: us) (op.apply f g) :=
      .binary (hf.weaken (Level.strength_le _)) (hg.weaken (Level.strength_le _))
    exact ⟨_, covers_binary op hts hus, (hboth.weaken (Nat.zero_le _)).round⟩
  | path q f g ihf ihg =>
    simp only [Formula.mem_atoms_path] at h
    obtain ⟨ts, hts, hf⟩ := ihf fun p hp => h p (.inl hp)
    obtain ⟨us, hus, hg⟩ := ihg fun p hp => h p (.inr hp)
    have hiff := Level.strength_le (.binary .iff)
    exact ⟨_, covers_path q hts hus, .path q (hf.weaken hiff) (hg.weaken hiff)⟩

/-! ## What a rendered formula can be read as -/

/-- The tokens of a text are written in it. -/
theorem Cut.of_mem {t : Token} (h : Cut cs ts) (ht : t ∈ ts) :
    (∃ rest, t.Fits rest) ∧ ∀ c ∈ t.text.toList, c ∈ cs := by
  induction h with
  | nil => cases ht
  | blank hblank hcs ih =>
    obtain ⟨hfits, hmem⟩ := ih ht
    exact ⟨hfits, fun c hc => List.mem_cons_of_mem _ (hmem c hc)⟩
  | @token t' rest ts hfits hrest ih =>
    rcases List.mem_cons.1 ht with rfl | ht
    · exact ⟨⟨rest, hfits⟩, fun c hc => List.mem_append_left _ hc⟩
    · obtain ⟨hfits', hmem⟩ := ih ht
      exact ⟨hfits', fun c hc => List.mem_append_right _ (hmem c hc)⟩

/-- The proposition is written among these tokens: as a quoted text, or as a name. -/
def Mentions (ts : List Token) (p : String) : Prop :=
  .quoted p ∈ ts ∨ .word p ∈ ts ∧ p ∉ keywords

theorem Mentions.mono (h : Mentions ts p) (hts : ts ⊆ us) : Mentions us p := by
  rcases h with hquoted | ⟨hword, hkeyword⟩
  · exact .inl (hts hquoted)
  · exact .inr ⟨hts hword, hkeyword⟩

mutual

/-- The propositions of a formula are those written in a phrase for it. -/
theorem Phrase.mentions {l : Level} (d : Phrase l) (h : p ∈ d.formula.atoms) :
    Mentions d.tokens p := by
  match d with
  | .only _ _ d => exact d.mentions h
  | .before op _ d e =>
    rcases Formula.mem_atoms_binary.1 h with hd | he
    · exact (d.mentions hd).mono (by simp [Phrase.tokens])
    · exact (e.mentions he).mono (by simp [Phrase.tokens])
  | .chain _ _ d links =>
    rcases links.mentions h with hd | hlinks
    · exact (d.mentions hd).mono (by simp [Phrase.tokens])
    · exact hlinks.mono (by simp [Phrase.tokens])
  | .unary op d =>
    exact (d.mentions (Formula.mem_atoms_unary.1 h)).mono (by simp [Phrase.tokens])
  | .path q d e =>
    rcases Formula.mem_atoms_path.1 h with hd | he
    · exact (d.mentions hd).mono fun t ht => by simp [Phrase.tokens, ht]
    · exact (e.mentions he).mono fun t ht => by simp [Phrase.tokens, ht]
  | .round d => exact (d.mentions h).mono (by simp [Phrase.tokens])
  | .tt => simp [Phrase.formula, Formula.atoms] at h
  | .ff => simp [Phrase.formula, Formula.atoms] at h
  | .name text hkeyword =>
    obtain rfl : text = p := by simpa [Phrase.formula, Formula.atoms] using h
    exact .inr ⟨by simp [Phrase.tokens], hkeyword⟩
  | .quoted text =>
    obtain rfl : text = p := by simpa [Phrase.formula, Formula.atoms] using h
    exact .inl (by simp [Phrase.tokens])

theorem Links.mentions {op : Binary} {left : Formula} (links : Links op)
    (h : p ∈ (links.formula left).atoms) : p ∈ left.atoms ∨ Mentions links.tokens p := by
  match links with
  | .done _ => exact .inl h
  | .link op d links =>
    rcases links.mentions h with hboth | hlinks
    · rcases Formula.mem_atoms_binary.1 hboth with hleft | hd
      · exact .inl hleft
      · exact .inr ((d.mentions hd).mono (by simp [Links.tokens]))
    · exact .inr (hlinks.mono (by simp [Links.tokens]))

end

theorem Token.continuesWord_of_startsWord (h : startsWord c = true) : continuesWord c = true := by
  rw [startsWord, Bool.or_eq_true] at h
  rcases h with h | h <;> simp [continuesWord, h]

theorem IsWord.not_mem (h : IsWord p) (hc : Token.continuesWord c = false) : c ∉ p.toList := by
  obtain ⟨d, ds, hp, hstart, hds⟩ := h
  rw [hp]
  intro hmem
  rcases List.mem_cons.1 hmem with rfl | hmem
  · exact absurd (Token.continuesWord_of_startsWord hstart) (by simp [hc])
  · exact absurd (hds _ hmem) (by simp [hc])

/-- If a formula is read from nothing but characters of its own rendering, then its
propositions have plain names. -/
theorem isWord_of_cut {d : Phrase (.binary .iff)} (hcut : Cut (' ' :: cs) d.tokens)
    (hcs : ∀ c ∈ cs, c ∈ d.formula.render.toList) :
    ∀ p ∈ d.formula.atoms, IsWord p ∧ p ∉ keywords := by
  -- neither a word nor a quoted text has a quote in it, so no proposition has
  have hquote : ∀ p ∈ d.formula.atoms, '"' ∉ p.toList := by
    intro p hp
    rcases d.mentions hp with hquoted | ⟨hword, -⟩
    · obtain ⟨⟨rest, hfits⟩, -⟩ := hcut.of_mem hquoted
      exact hfits
    · obtain ⟨⟨rest, hfits⟩, -⟩ := hcut.of_mem hword
      exact hfits.1.not_mem (by decide +kernel)
  intro p hp
  rcases d.mentions hp with hquoted | ⟨hword, hkeyword⟩
  · have hmem : '"' ∈ ' ' :: cs := (hcut.of_mem hquoted).2 '"' (by simp [Token.text])
    have hrender := hcs '"' ((List.mem_cons.1 hmem).resolve_left (by decide))
    rcases Formula.mem_render hrender with hsign | ⟨p', hp', hmem'⟩
    · exact absurd hsign (by decide)
    · exact absurd hmem' (hquote p' hp')
  · obtain ⟨⟨rest, hfits⟩, -⟩ := hcut.of_mem hword
    exact ⟨hfits.1, hkeyword⟩

/-! ## Both ways -/

section

variable {name : String}

/-- A line is not ignored if it starts with a name. -/
theorem isIgnored_name_append (hne : name ≠ "") (htrim : trim name.toList = name.toList)
    (hcomment : name.toList.head? ≠ some '#') (r : List Char) :
    isIgnored (name.toList ++ r) = false := by
  cases hname : name.toList with
  | nil => exact absurd (String.toList_eq_nil_iff.1 hname) hne
  | cons c cs =>
    rw [hname] at htrim hcomment
    have hblank := isBlank_eq_false_of_trim htrim
    rw [List.cons_append, isIgnored, trim, List.dropWhile_cons_of_neg (by simp [hblank]),
      trimEnd_cons hblank]
    simpa using hcomment

/-- The entries that give a formula this name. -/
theorem isEntry_name_append_iff (hne : name ≠ "") (htrim : trim name.toList = name.toList)
    (hcolon : ':' ∉ name.toList) {r : List Char} :
    IsEntry (name.toList ++ ':' :: r) (name, f) ↔
      ∃ d : Phrase (.binary .iff), Cut r d.tokens ∧ d.formula = f := by
  have hnil : name.toList ≠ [] := fun h => hne (String.toList_eq_nil_iff.1 h)
  simp only [isEntry_append_iff hcolon, htrim, String.ofList_toList, Prod.mk.injEq, true_and,
    and_iff_right hnil, @eq_comm _ f]

/-- **A formula is read back from its rendering exactly if its propositions have plain
names**: words that are no keywords. -/
theorem parse_render_iff (hne : name ≠ "") (htrim : trim name.toList = name.toList)
    (hcolon : ':' ∉ name.toList) (hfeed : '\n' ∉ name.toList)
    (hcomment : name.toList.head? ≠ some '#') (f : Formula) :
    parse (name ++ ": " ++ f.render) = .ok [(name, f)] ↔
      ∀ p ∈ f.atoms, IsWord p ∧ p ∉ keywords := by
  have htext : (name ++ ": " ++ f.render).toList =
      name.toList ++ ':' :: ' ' :: f.render.toList := by simp
  have hentry : ∀ r, isIgnored (name.toList ++ r) = false :=
    isIgnored_name_append hne htrim hcomment
  rw [parse, htext, parseLines_eq_ok_iff]
  constructor
  · intro h
    -- nothing but the first line can give the entry
    obtain ⟨r, others, hlines, hr⟩ : ∃ r others,
        lines ((name.toList ++ [':', ' ']) ++ f.render.toList) =
          ((name.toList ++ [':', ' ']) ++ r) :: others ∧ ∀ d ∈ r, d ∈ f.render.toList :=
      exists_lines_append (by simp [hfeed]) (by simp) (by simp) f.render.toList
    simp only [List.append_assoc, List.cons_append, List.nil_append] at hlines
    rw [hlines, List.filter_cons_of_pos (by simp [hentry])] at h
    cases h with
    | cons hfirst hothers =>
      obtain ⟨d, hcut, rfl⟩ := (isEntry_name_append_iff hne htrim hcolon).1 hfirst
      exact isWord_of_cut hcut hr
  · intro h
    have hfeeds : '\n' ∉ f.render.toList := by
      intro hmem
      rcases Formula.mem_render hmem with hsign | ⟨p, hp, hmem⟩
      · exact absurd hsign (by decide)
      · exact absurd hmem ((h p hp).1.not_mem (by decide +kernel))
    obtain ⟨ts, hts, hparses⟩ := exists_covers_render h
    obtain ⟨d, rfl, hformula⟩ : Parses (.binary .iff) ts f := hparses.weaken (Level.strength_le _)
    have hcut := (hts [] [] endsWord_nil .nil).space
    rw [List.append_nil, List.append_nil] at hcut
    rw [lines_eq_singleton (by simp [hfeed, hfeeds]) (by simp),
      List.filter_cons_of_pos (by simp [hentry])]
    exact .cons ((isEntry_name_append_iff hne htrim hcolon).2 ⟨d, hcut, hformula⟩) .nil

end

/-- A quantifier is a name where no bracket follows it, and a keyword never is. -/
theorem parse_render_iff_live :
    parse ("live" ++ ": " ++ (Formula.au (.atom "E") (.imp (.atom "req.1") (.neg .tt))).render) =
      .ok [("live", .au (.atom "E") (.imp (.atom "req.1") (.neg .tt)))] ∧
    parse ("live" ++ ": " ++ (Formula.atom "U").render) ≠ .ok [("live", .atom "U")] := by
  have hiff (f : Formula) : parse ("live" ++ ": " ++ f.render) = .ok [("live", f)] ↔
      ∀ p ∈ f.atoms, IsWord p ∧ p ∉ keywords :=
    parse_render_iff (by decide) (by decide) (by decide) (by decide) (by decide) f
  refine ⟨(hiff _).2 fun p hp => ?_, fun h => ?_⟩
  · have hnames : ∀ p ∈ ["E", "req.1"], IsWord p ∧ p ∉ keywords := by decide +kernel
    exact hnames p (by simpa [Formula.atoms, @eq_comm _ p] using hp)
  · exact absurd ((hiff _).1 h "U" (by simp [Formula.atoms])).2 (by decide)

end FormulaFile

end BranchingTime
