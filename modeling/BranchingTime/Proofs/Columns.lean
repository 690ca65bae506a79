/-
Columns of tokens. The scanner goes through a line and knows only the column where it is
and the rest of the line; here its tokens are compared with the whole line. They stand where
their columns say, one after another, and between them there are only blanks (`Segments`).
Where the scanner stops, everything before that column is taken apart in the same way, and no
token starts there (`Stuck`).

Words are as long as they can be on both sides. To the right that is what the scanner does; to
the left it is an invariant of the scan: wherever a token may start, a word does not go on from
the character before (`Apart`).
-/
import Mathlib.Data.List.TakeWhile
import BranchingTime.Proofs.Rendering

namespace BranchingTime.FormulaFile

open Text

/-- The column after the last character of a token. -/
def Lexeme.next (x : Lexeme) : Nat := x.column + x.token.text.length

/-- The column of what cannot be cut into tokens. -/
def TokenError.column : TokenError → Nat
  | .invalidCharacter column _ => column
  | .unterminated column => column

/-- The part of the line from one column up to another one consists of these tokens, and of
blanks. -/
structure Segments (whole : List Char) (start stop : Nat) (tokens : List Lexeme) : Prop where
  start_le_stop : start ≤ stop
  inside : ∀ x ∈ tokens, start ≤ x.column ∧ x.next ≤ stop
  /-- The tokens are in order and do not overlap. -/
  ordered : tokens.Pairwise fun x y => x.column < y.column ∧ x.next ≤ y.column
  /-- From its column on, the line spells the token. -/
  spelled : ∀ x ∈ tokens, x.token.text.toList <+: whole.drop (x.column - 1)
  /-- The token is written as it has to be in front of what follows. -/
  fits : ∀ x ∈ tokens, x.token.Fits (whole.drop (x.next - 1))
  /-- What is not covered by a token is blank. -/
  blank : ∀ column c, start ≤ column → column < stop → whole[column - 1]? = some c →
    (∀ x ∈ tokens, ¬(x.column ≤ column ∧ column < x.next)) → isBlank c = true
  /-- A word goes on neither to the left nor to the right. -/
  maximal : ∀ x ∈ tokens, ∀ text, x.token = .word text → ∀ i c,
    i + 2 = x.column ∨ i + 1 = x.next → whole[i]? = some c → Token.continuesWord c = false

/-- No token starts in this column, or a quoted text that does not end on the line. -/
def Stuck (whole : List Char) : TokenError → Prop
  | .invalidCharacter column c => whole[column - 1]? = some c ∧ isBlank c = false ∧
      ∀ (t : Token) (rest : List Char), t.Fits rest →
        whole.drop (column - 1) ≠ t.text.toList ++ rest
  | .unterminated column => whole[column - 1]? = some '"' ∧ '"' ∉ whole.drop column

variable {column stop : Nat} {whole before cs rest : List Char} {c : Char} {t : Token}
  {tokens : List Lexeme} {error : TokenError}

/-! ## Where words end -/

theorem Token.continuesWord_eq_false_of_isBlank (h : isBlank c = true) :
    continuesWord c = false := by
  have hunderscore : c ≠ '_' := by
    rintro rfl
    exact absurd h (by decide)
  have hdot : c ≠ '.' := by
    rintro rfl
    exact absurd h (by decide)
  simp [continuesWord, isLetter_eq_false_of_isBlank h, isNumber_eq_false_of_isBlank h, hunderscore,
    hdot]

/-- No word goes on from the first text to the second. -/
def Apart (before cs : List Char) : Prop :=
  ∀ c, before.getLast? = some c → Token.continuesWord c = true → EndsWord cs

theorem apart_concat (h : Token.continuesWord c = false) (before cs : List Char) :
    Apart (before ++ [c]) cs := by
  intro d hd hcontinues
  rw [List.getLast?_concat] at hd
  cases hd
  rw [h] at hcontinues
  cases hcontinues

/-- After a token a new word may start: a word has ended, and other tokens end with a
character that words do not have. -/
theorem apart_of_fits (h : t.Fits rest) (before : List Char) :
    Apart (before ++ t.text.toList) rest := by
  cases t with
  | word text =>
    intro c _ _
    exact h.2
  | quoted text =>
    have htext : before ++ (Token.quoted text).text.toList =
        (before ++ '"' :: text.toList) ++ ['"'] := by simp [Token.text]
    rw [htext]
    exact apart_concat (by decide +kernel) _ _
  | ampersands => exact List.append_cons before '&' ['&'] ▸ apart_concat (by decide +kernel) _ _
  | bars => exact List.append_cons before '|' ['|'] ▸ apart_concat (by decide +kernel) _ _
  | arrow => exact List.append_cons before '-' ['>'] ▸ apart_concat (by decide +kernel) _ _
  | doubleArrow =>
    have htext : before ++ Token.doubleArrow.text.toList = (before ++ ['<', '-']) ++ ['>'] := by
      simp [Token.text]
    rw [htext]
    exact apart_concat (by decide +kernel) _ _
  | bang | openRound | closeRound | openSquare | closeSquare =>
    exact apart_concat (by decide +kernel) _ _

/-! ## One more piece of the line -/

theorem Token.Fits.length_pos (h : t.Fits rest) : 0 < t.text.length := by
  cases t with
  | word text =>
    obtain ⟨⟨c, cs, htext, -⟩, -⟩ := h
    rw [Token.text, ← String.length_toList, htext]
    simp
  | quoted text =>
    rw [Token.text, ← String.length_toList]
    simp
  | bang | ampersands | bars | arrow | doubleArrow | openRound | closeRound | openSquare
  | closeSquare => decide

/-- The character before a word is not one by which words go on. -/
theorem Apart.left {text : String} (h : Apart before (text.toList ++ rest)) (htext : IsWord text)
    (hc : before.getLast? = some c) : Token.continuesWord c = false := by
  obtain ⟨d, ds, hd, hstarts, -⟩ := htext
  cases hcontinues : Token.continuesWord c with
  | false => rfl
  | true =>
    have hends : Token.continuesWord d = false := h c hc hcontinues d (by simp [hd])
    rw [Token.continuesWord_of_startsWord hstarts] at hends
    cases hends

namespace Segments

theorem nil (whole : List Char) (column : Nat) : Segments whole column column [] where
  start_le_stop := Nat.le_refl column
  inside := by simp
  ordered := .nil
  spelled := by simp
  fits := by simp
  blank := by omega
  maximal := by simp

theorem consBlank (hwhole : whole = before ++ c :: cs) (hblank : isBlank c = true)
    (h : Segments whole (before.length + 2) stop tokens) :
    Segments whole (before.length + 1) stop tokens where
  start_le_stop := Nat.le_of_succ_le h.start_le_stop
  inside x hx := ⟨Nat.le_of_succ_le (h.inside x hx).1, (h.inside x hx).2⟩
  ordered := h.ordered
  spelled := h.spelled
  fits := h.fits
  blank := by
    intro column d hcolumn hstop hd hfree
    by_cases heq : column = before.length + 1
    · have hc : whole[column - 1]? = some c := by simp [hwhole, heq]
      rw [hc] at hd
      cases hd
      exact hblank
    · exact h.blank column d (by omega) hstop hd hfree
  maximal := h.maximal

theorem consToken (hwhole : whole = before ++ (t.text.toList ++ rest)) (hfits : t.Fits rest)
    (hapart : Apart before (t.text.toList ++ rest))
    (h : Segments whole (before.length + 1 + t.text.length) stop tokens) :
    Segments whole (before.length + 1) stop (⟨before.length + 1, t⟩ :: tokens) where
  start_le_stop := Nat.le_trans (Nat.le_add_right _ _) h.start_le_stop
  inside := by
    refine List.forall_mem_cons.2 ⟨⟨Nat.le_refl _, h.start_le_stop⟩, fun x hx => ?_⟩
    obtain ⟨hstart, hstop⟩ := h.inside x hx
    exact ⟨by omega, hstop⟩
  ordered := by
    refine .cons (fun x hx => ?_) h.ordered
    have hpos := hfits.length_pos
    have hstart := (h.inside x hx).1
    simp only [Lexeme.next]
    omega
  spelled := by
    refine List.forall_mem_cons.2 ⟨⟨rest, ?_⟩, h.spelled⟩
    rw [hwhole, Nat.add_sub_cancel, List.drop_left]
  fits := by
    refine List.forall_mem_cons.2 ⟨?_, h.fits⟩
    have hrest : whole.drop (before.length + t.text.length) = rest := by
      rw [hwhole, ← List.append_assoc, List.drop_left' (by simp [String.length_toList])]
    simpa [Lexeme.next, Nat.add_right_comm, hrest] using hfits
  blank := by
    intro column d hcolumn hstop hd hfree
    obtain ⟨hnot, hfree⟩ := List.forall_mem_cons.1 hfree
    simp only [Lexeme.next] at hnot
    exact h.blank column d (by omega) hstop hd hfree
  maximal := by
    refine List.forall_mem_cons.2 ⟨fun text hword i d hi hd => ?_, h.maximal⟩
    simp only at hword
    subst hword
    simp only [Lexeme.next, Token.text] at hi hwhole hapart
    rcases hi with hi | hi
    · refine hapart.left hfits.1 ?_
      have hlt : i < before.length := by omega
      rw [List.getLast?_eq_getElem?, ← hd, hwhole, List.getElem?_append_left hlt]
      congr 1
      omega
    · refine hfits.2 d ?_
      have hlength : (before ++ text.toList).length = i := by
        simp only [List.length_append, String.length_toList]
        omega
      rw [← hd, hwhole, ← List.append_assoc, ← hlength, List.getElem?_append_right (Nat.le_refl _),
        Nat.sub_self, List.head?_eq_getElem?]

end Segments

/-! ## The whole line -/

/-- A scan that fails has found a character where no token starts, or a quote that is the last
one. -/
theorem Token.first_eq_error (h : first column c cs = .error error) :
    error = .invalidCharacter column c ∨ error = .unterminated column ∧ c = '"' ∧ '"' ∉ cs := by
  unfold first at h
  split at h
  case h_10 =>
    split at h
    next hnone =>
      cases h
      refine .inr ⟨rfl, rfl, fun hmem => ?_⟩
      have := List.dropWhile_eq_nil_iff.1 hnone '"' hmem
      simp at this
    next => cases h
  case h_11 =>
    split at h
    next => cases h
    next =>
      cases h
      exact .inl rfl
  all_goals cases h

theorem stuck_of_first (hwhole : whole = before ++ c :: cs) (hblank : isBlank c = false)
    (h : Token.first (before.length + 1) c cs = .error error) :
    error.column = before.length + 1 ∧ Stuck whole error := by
  subst hwhole
  rcases Token.first_eq_error h with rfl | ⟨rfl, rfl, hquote⟩
  · refine ⟨rfl, by simp, hblank, fun t rest hfits htext => ?_⟩
    obtain ⟨d, ds, hstart, -, hfirst⟩ := Token.exists_first_eq_ok hfits
    rw [hstart, Nat.add_sub_cancel, List.drop_left] at htext
    obtain ⟨rfl, rfl⟩ := List.cons.inj htext
    cases h.symm.trans (hfirst _)
  · refine ⟨rfl, by simp, ?_⟩
    rw [List.append_cons, List.drop_left' (by simp)]
    exact hquote

/-- What the scan of a line comes to from a column on: tokens up to the end of the line, or
tokens up to where no token starts. -/
def Scanned (whole : List Char) (column : Nat) : Except TokenError (List Lexeme) → Prop
  | .ok tokens => Segments whole column (whole.length + 1) tokens
  | .error error => ∃ tokens, Segments whole column error.column tokens ∧ Stuck whole error

theorem Scanned.consBlank {result : Except TokenError (List Lexeme)}
    (hwhole : whole = before ++ c :: cs) (hblank : isBlank c = true)
    (h : Scanned whole (before.length + 2) result) :
    Scanned whole (before.length + 1) result := by
  cases result with
  | ok tokens => exact Segments.consBlank hwhole hblank h
  | error error =>
    obtain ⟨tokens, hsegments, hstuck⟩ := h
    exact ⟨tokens, hsegments.consBlank hwhole hblank, hstuck⟩

theorem Scanned.consToken {result : Except TokenError (List Lexeme)}
    (hwhole : whole = before ++ (t.text.toList ++ rest)) (hfits : t.Fits rest)
    (hapart : Apart before (t.text.toList ++ rest))
    (h : Scanned whole (before.length + 1 + t.text.length) result) :
    Scanned whole (before.length + 1) (do return ⟨before.length + 1, t⟩ :: (← result)) := by
  cases result with
  | ok tokens => exact Segments.consToken hwhole hfits hapart h
  | error error =>
    obtain ⟨tokens, hsegments, hstuck⟩ := h
    exact ⟨_, hsegments.consToken hwhole hfits hapart, hstuck⟩

/-- The scan of what a line has from a column on. -/
theorem scanned_scan (hwhole : whole = before ++ cs) (hcolumn : column = before.length + 1)
    (hapart : Apart before cs) : Scanned whole column (scan column cs) := by
  fun_induction scan column cs generalizing before with
  | case1 column =>
    have hlength : column = whole.length + 1 := by rw [hcolumn, hwhole, List.append_nil]
    rw [Scanned, ← hlength]
    exact .nil whole column
  | case2 column c cs hblank ih =>
    subst hcolumn
    refine Scanned.consBlank hwhole hblank ?_
    have hwhole' : whole = (before ++ [c]) ++ cs := by rw [hwhole, List.append_cons]
    refine ih hwhole' (by simp) ?_
    exact apart_concat (Token.continuesWord_eq_false_of_isBlank hblank) before cs
  | case3 column c cs hblank error herror =>
    subst hcolumn
    obtain ⟨hcolumn, hstuck⟩ := stuck_of_first hwhole (by simpa using hblank) herror
    refine ⟨[], ?_, hstuck⟩
    rw [hcolumn]
    exact .nil whole _
  | case4 column c cs hblank t rest hfirst hlength ih =>
    subst hcolumn
    obtain ⟨htext, hfits⟩ := Token.first_eq_ok hfirst
    rw [htext] at hwhole hapart
    refine Scanned.consToken hwhole hfits hapart ?_
    have hwhole' : whole = (before ++ t.text.toList) ++ rest := by rw [hwhole, List.append_assoc]
    refine ih hwhole' ?_ (apart_of_fits hfits before)
    simp only [List.length_append, String.length_toList]
    omega

theorem parseEntry_append {name text : List Char} (hcolon : ':' ∉ name) (hname : trim name ≠ []) :
    parseEntry (name ++ ':' :: text) = (do
      let f ← parseFormula (name.length + 2) text
      return (String.ofList (trim name), f)) := by
  rw [parseEntry, cut?_eq_some_iff.2 ⟨rfl, hcolon⟩]
  simp [hname]

/-- **Columns of tokens are right and nothing is lost.** The tokens of an entry stand on its line
where their columns say, in order, and words are as long as they can be; all that follows the
colon and is not covered by a token is blank. If the text cannot be cut into tokens, this holds
of it up to the reported column, where no token starts. -/
theorem parseEntry_tokens_segment_line {name text : List Char}
    (hwhole : whole = name ++ ':' :: text) (hcolon : ':' ∉ name) (hname : trim name ≠ []) :
    (∀ tokens, scan (name.length + 2) text = .ok tokens →
      parseEntry whole = (do
        let f ← (parseTokens tokens).mapError .ofParseError
        return (String.ofList (trim name), f)) ∧
      Segments whole (name.length + 2) (whole.length + 1) tokens) ∧
    (∀ error, scan (name.length + 2) text = .error error →
      parseEntry whole = .error (.ofTokenError error) ∧
      ∃ tokens, Segments whole (name.length + 2) error.column tokens ∧ Stuck whole error) := by
  have hscanned : Scanned whole (name.length + 2) (scan (name.length + 2) text) := by
    have hwhole' : whole = (name ++ [':']) ++ text := by rw [hwhole, List.append_cons]
    exact scanned_scan hwhole' (by simp) (apart_concat (by decide +kernel) name text)
  have hentry : parseEntry whole = _ := hwhole ▸ parseEntry_append hcolon hname
  refine ⟨fun tokens hscan => ?_, fun error hscan => ?_⟩
  · rw [hscan] at hscanned
    refine ⟨?_, hscanned⟩
    rw [hentry, parseFormula, hscan]
    rfl
  · rw [hscan] at hscanned
    refine ⟨?_, hscanned⟩
    rw [hentry, parseFormula, hscan]
    rfl

/-- A line whose tokens are found, one with a character that starts none, and one with a quote
that is not closed. -/
theorem parseEntry_tokens_segment_line_unicode :
    let name := "é 1".toList
    let found : List Lexeme :=
      [⟨6, .word "a.b"⟩, ⟨9, .doubleArrow⟩, ⟨12, .quoted "ü ->"⟩, ⟨20, .word "_c"⟩]
    (':' ∉ name ∧ trim name ≠ []) ∧
    Segments "é 1: a.b<->\"ü ->\"  _c".toList 5 22 found ∧
    (parseEntry "é 1: a.b->$".toList = .error (.invalidCharacter 11 '$') ∧
      ∃ tokens, Segments "é 1: a.b->$".toList 5 11 tokens) ∧
    parseEntry "é 1: !\"p".toList = .error (.unterminated 7) ∧
      ∃ tokens, Segments "é 1: !\"p".toList 5 7 tokens := by
  intro name found
  have hcolon : ':' ∉ name := by decide +kernel
  have hname : trim name ≠ [] := by decide +kernel
  have hfound : scan 5 " a.b<->\"ü ->\"  _c".toList = .ok found :=
    toOption_eq_some_iff.1 (by decide +kernel)
  have hinvalid : scan 5 " a.b->$".toList = .error (.invalidCharacter 11 '$') :=
    error?_eq_some_iff.1 (by decide +kernel)
  have hopen : scan 5 " !\"p".toList = .error (.unterminated 7) :=
    error?_eq_some_iff.1 (by decide +kernel)
  have hfoundLine : "é 1: a.b<->\"ü ->\"  _c".toList =
      name ++ ':' :: " a.b<->\"ü ->\"  _c".toList := by decide +kernel
  have hinvalidLine : "é 1: a.b->$".toList = name ++ ':' :: " a.b->$".toList := by decide +kernel
  have hopenLine : "é 1: !\"p".toList = name ++ ':' :: " !\"p".toList := by decide +kernel
  obtain ⟨-, hsegments⟩ := (parseEntry_tokens_segment_line hfoundLine hcolon hname).1 _ hfound
  obtain ⟨hparse, tokens, htokens, -⟩ :=
    (parseEntry_tokens_segment_line hinvalidLine hcolon hname).2 _ hinvalid
  obtain ⟨hparse', tokens', htokens', -⟩ :=
    (parseEntry_tokens_segment_line hopenLine hcolon hname).2 _ hopen
  exact ⟨⟨hcolon, hname⟩, hsegments, ⟨hparse, tokens, htokens⟩, hparse', tokens', htokens'⟩

end BranchingTime.FormulaFile
