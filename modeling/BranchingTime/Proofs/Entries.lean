/-
Which formula files are accepted, said without a parser. A line that is neither
blank nor a comment has to be an entry (`IsEntry`): a name, a colon, and a text that
can be cut into the tokens of a derivation from `iff`. A file is accepted exactly if
all these lines are entries, and they are given in their order (`parseLines_eq_ok_iff`);
otherwise the error is that of the first line which is none (`parseLines_eq_error`).
-/
import BranchingTime.FormulaFile.Basic
import BranchingTime.Proofs.Lexing
import BranchingTime.Proofs.Parsing
import Mathlib.Data.List.Forall2

namespace BranchingTime.FormulaFile

open Text

/-- The line gives a formula its name: the name stands before the first colon, and
is not blank; what follows the colon derives from `iff`. -/
def IsEntry (line : List Char) (entry : String × Formula) : Prop :=
  ∃ before after, ∃ d : Phrase (.binary .iff),
    line = before ++ ':' :: after ∧ ':' ∉ before ∧ trim before ≠ [] ∧ Cut after d.tokens ∧
      entry = (.ofList (trim before), d.formula)

/-- There is nothing wrong with the line. -/
def InOrder (line : List Char) : Prop := isIgnored line = true ∨ ∃ entry, IsEntry line entry

variable {column number : Nat} {text line : List Char} {ls : List (List Char)} {f : Formula}
  {entry : String × Formula} {entries : List (String × Formula)} {error : Error}

/-- A text derives from `iff` in one way at most. -/
theorem Cut.eq_of_tokens {d d' : Phrase (.binary .iff)} (h : Cut text d.tokens)
    (h' : Cut text d'.tokens) : d = d' := by
  obtain ⟨tokens, hscan, htokens⟩ := h.exists_scan 1
  obtain ⟨tokens', hscan', htokens'⟩ := h'.exists_scan 1
  cases hscan.symm.trans hscan'
  exact Phrase.eq_of_tokens (htokens.symm.trans htokens')

theorem parseFormula_eq_ok_iff : parseFormula column text = .ok f ↔
    ∃ d : Phrase (.binary .iff), Cut text d.tokens ∧ d.formula = f := by
  simp only [parseFormula, bind_eq_ok_iff, mapError_eq_ok_iff, parseTokens_eq_ok_iff]
  constructor
  · rintro ⟨tokens, hscan, d, htokens, hformula⟩
    exact ⟨d, exists_scan_eq_ok_iff.1 ⟨tokens, hscan, htokens.symm⟩, hformula⟩
  · rintro ⟨d, hcut, hformula⟩
    obtain ⟨tokens, hscan, htokens⟩ := exists_scan_eq_ok_iff.2 hcut
    exact ⟨tokens, hscan, d, htokens.symm, hformula⟩

/-- The first colon of a line tells what its entry can be. -/
theorem isEntry_append_iff {before after : List Char} (hcolon : ':' ∉ before) :
    IsEntry (before ++ ':' :: after) entry ↔ trim before ≠ [] ∧
      ∃ d : Phrase (.binary .iff), Cut after d.tokens ∧
        entry = (.ofList (trim before), d.formula) := by
  constructor
  · rintro ⟨before', after', d, heq, hcolon', hname, hcut, hentry⟩
    have hfirst := cut?_eq_some_iff.2 ⟨heq, hcolon'⟩
    have hfirst' : cut? [':'] (before ++ ':' :: after) = some (before, after) :=
      cut?_eq_some_iff.2 ⟨rfl, hcolon⟩
    cases hfirst.symm.trans hfirst'
    exact ⟨hname, d, hcut, hentry⟩
  · rintro ⟨hname, d, hcut, hentry⟩
    exact ⟨before, after, d, rfl, hcolon, hname, hcut, hentry⟩

theorem parseEntry_eq_ok_iff : parseEntry line = .ok entry ↔ IsEntry line entry := by
  rw [parseEntry]
  split
  next hcut =>
    constructor
    · intro h
      cases h
    · rintro ⟨before, after, d, rfl, -⟩
      exact absurd (by simp) (not_mem_of_cut?_eq_none hcut)
  next before after hcut =>
    obtain ⟨rfl, hcolon⟩ := cut?_eq_some_iff.1 hcut
    rw [isEntry_append_iff hcolon]
    by_cases hname : trim before = []
    · simp [hname, bind, Except.bind, throw, throwThe, MonadExceptOf.throw]
    · have hname' : ¬(trim before).isEmpty = true := by simpa using hname
      simp only [if_neg hname', bind_eq_ok_iff, parseFormula_eq_ok_iff]
      constructor
      · rintro ⟨f, ⟨d, hcut, rfl⟩, hentry⟩
        cases hentry
        exact ⟨hname, d, hcut, rfl⟩
      · rintro ⟨-, d, hcut, rfl⟩
        exact ⟨_, ⟨d, hcut, rfl⟩, rfl⟩

/-- Accepted lines are entries, or are ignored. -/
theorem parseLines_eq_ok_iff : parseLines number ls = .ok entries ↔
    List.Forall₂ IsEntry (ls.filter (!isIgnored ·)) entries := by
  induction ls generalizing number entries with
  | nil =>
    rw [parseLines, List.filter_nil, List.forall₂_nil_left_iff, Except.ok.injEq]
    exact eq_comm
  | cons line ls ih =>
    rw [parseLines]
    split
    next hignored => rw [List.filter_cons_of_neg (by simp [hignored]), ih]
    next hignored =>
      rw [List.filter_cons_of_pos (by simp [hignored])]
      simp only [bind_eq_ok_iff, mapError_eq_ok_iff, parseEntry_eq_ok_iff, ih]
      constructor
      · rintro ⟨entry, hentry, others, hothers, heq⟩
        cases heq
        exact .cons hentry hothers
      · intro h
        cases h with
        | cons hentry hothers => exact ⟨_, hentry, _, hothers, rfl⟩

/-- Reading stops at the first line that is not in order. -/
theorem parseLines_eq_error (h : parseLines number ls = .error error) :
    ∃ before line after, ls = before ++ line :: after ∧ error.line = number + before.length ∧
      ¬InOrder line ∧ ∀ l ∈ before, InOrder l := by
  induction ls generalizing number with
  | nil => cases h
  | cons line ls ih =>
    -- the line itself is in order, and the error comes from further below
    have hbelow : InOrder line → parseLines (number + 1) ls = .error error →
        ∃ before line' after, line :: ls = before ++ line' :: after ∧
          error.line = number + before.length ∧ ¬InOrder line' ∧ ∀ l ∈ before, InOrder l := by
      intro hline hrest
      obtain ⟨before, line', after, rfl, hnumber, hline', hbefore⟩ := ih hrest
      refine ⟨line :: before, line', after, rfl, ?_, hline', ?_⟩
      · rw [hnumber, List.length_cons]
        omega
      · exact List.forall_mem_cons.2 ⟨hline, hbefore⟩
    rw [parseLines] at h
    split at h
    next hignored => exact hbelow (.inl hignored) h
    next hignored =>
      cases hentry : parseEntry line with
      | error problem =>
        rw [hentry] at h
        cases h
        refine ⟨[], line, ls, rfl, rfl, ?_, by simp⟩
        rintro (hline | ⟨entry, hline⟩)
        · exact hignored hline
        · cases hentry.symm.trans (parseEntry_eq_ok_iff.2 hline)
      | ok entry =>
        cases hrest : parseLines (number + 1) ls with
        | ok entries => rw [hentry, hrest] at h; cases h
        | error error' =>
          rw [hentry, hrest] at h
          cases h
          exact hbelow (.inr ⟨entry, parseEntry_eq_ok_iff.1 hentry⟩) hrest

/-- **A formula file is accepted exactly if it follows the grammar.** It gives the
entries of all lines that are not ignored, each of which derives in one way only;
a file that is not accepted has an error at its first line which is not in order. -/
theorem parse_accepts_entries (text : String) :
    (∀ entries, parse text = .ok entries ↔
      List.Forall₂ IsEntry ((lines text.toList).filter (!isIgnored ·)) entries) ∧
    (∀ after, ∀ d d' : Phrase (.binary .iff), Cut after d.tokens → Cut after d'.tokens → d = d') ∧
    ∀ error, parse text = .error error →
      ∃ before line after, lines text.toList = before ++ line :: after ∧
        error.line = before.length + 1 ∧ ¬InOrder line ∧ ∀ l ∈ before, InOrder l := by
  refine ⟨fun entries => parseLines_eq_ok_iff, fun after d d' => Cut.eq_of_tokens, ?_⟩
  intro error h
  obtain ⟨before, line, after, hlines, hnumber, hviolation⟩ := parseLines_eq_error h
  exact ⟨before, line, after, hlines, by omega, hviolation⟩

/-- Implications and equivalences nest to the right, conjunctions and disjunctions to the
left. -/
example :
    (parse "f: a -> b -> c").toOption =
      some [("f", .imp (.atom "a") (.imp (.atom "b") (.atom "c")))] ∧
    (parse "f: a <-> b <-> c").toOption =
      some [("f", .iff (.atom "a") (.iff (.atom "b") (.atom "c")))] ∧
    (parse "f: a && b && c").toOption =
      some [("f", .conj (.conj (.atom "a") (.atom "b")) (.atom "c"))] ∧
    (parse "f: a || b || c").toOption =
      some [("f", .disj (.disj (.atom "a") (.atom "b")) (.atom "c"))] := by
  decide +kernel

end BranchingTime.FormulaFile
