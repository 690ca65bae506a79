/-
How a text is cut into tokens. `Cut` says it without a scanner: the text consists
of the tokens as they are written, in their order, with any blanks between them;
a word has to be a word, with nothing after it by which it would go on, and a
quoted text holds no quote. The scanner finds these tokens wherever they exist
(`exists_scan_eq_ok_iff`).
-/
import BranchingTime.FormulaFile.Token
import BranchingTime.Proofs.Text

namespace BranchingTime

namespace FormulaFile

open Text

/-- The text is a word: a letter or an underscore, and then letters, numbers,
underscores and dots. -/
def IsWord (text : String) : Prop :=
  ∃ c cs, text.toList = c :: cs ∧ Token.startsWord c = true ∧ ∀ d ∈ cs, Token.continuesWord d = true

theorem isWord_iff {text : String} : IsWord text ↔
    (match text.toList with
      | [] => false
      | c :: cs => Token.startsWord c && cs.all Token.continuesWord) = true := by
  constructor
  · rintro ⟨c, cs, htext, hstart, hcs⟩
    simpa [htext, hstart] using hcs
  · intro h
    split at h
    next => cases h
    next c cs htext =>
      obtain ⟨hstart, hcs⟩ := Bool.and_eq_true_iff.1 h
      exact ⟨c, cs, htext, hstart, List.all_eq_true.1 hcs⟩

instance : DecidablePred IsWord := fun _ => decidable_of_iff' _ isWord_iff

/-- No word goes on with this text. -/
def EndsWord (rest : List Char) : Prop :=
  ∀ c, rest.head? = some c → Token.continuesWord c = false

/-- The token can be written in front of this text. -/
def Token.Fits : Token → List Char → Prop
  | .word text, rest => IsWord text ∧ EndsWord rest
  | .quoted text, _ => '"' ∉ text.toList
  | _, _ => True

/-- The text consists of these tokens, and of blanks between them. -/
inductive Cut : List Char → List Token → Prop
  | nil : Cut [] []
  | blank {c : Char} {cs : List Char} {ts : List Token} (h : isBlank c = true) (hcs : Cut cs ts) :
    Cut (c :: cs) ts
  | token {t : Token} {rest : List Char} {ts : List Token} (h : t.Fits rest) (hrest : Cut rest ts) :
    Cut (t.text.toList ++ rest) (t :: ts)

/-! ## One token -/

namespace Token

variable {column : Nat} {c : Char} {cs rest : List Char} {t : Token}

theorem isBlank_eq_false_of_startsWord (h : startsWord c = true) : isBlank c = false := by
  rcases Bool.or_eq_true_iff.1 h with hletter | hunderscore
  · cases hb : isBlank c with
    | false => rfl
    | true => exact absurd hletter (by simp [isLetter_eq_false_of_isBlank hb])
  · rw [eq_of_beq hunderscore]
    decide

theorem not_head_dropWhile {p : Char → Bool} (d : Char) (h : (cs.dropWhile p).head? = some d) :
    p d = false := by
  have := List.head?_dropWhile_not p cs
  rw [h] at this
  simpa using this

/-- What the scanner finds first stands there. -/
theorem first_eq_ok (h : first column c cs = .ok (t, rest)) :
    c :: cs = t.text.toList ++ rest ∧ t.Fits rest := by
  unfold first at h
  split at h
  case h_10 =>
    split at h
    next => cases h
    next quote after hafter =>
      cases h
      have hquote : quote = '"' := by
        have := not_head_dropWhile (p := (· != '"')) quote (by rw [hafter]; rfl)
        simpa using this
      have hsplit := List.takeWhile_append_dropWhile (p := (· != '"')) (l := cs)
      rw [hafter, hquote] at hsplit
      refine ⟨?_, ?_⟩
      · simp [text, hsplit]
      · simp only [Fits, String.toList_ofList]
        intro hmem
        simpa using List.all_eq_true.1 List.all_takeWhile _ hmem
  case h_11 =>
    split at h
    next hstart =>
      cases h
      refine ⟨?_, ⟨c, cs.takeWhile continuesWord, by simp, hstart, ?_⟩, ?_⟩
      · simp [text]
      · exact List.all_eq_true.1 List.all_takeWhile
      · exact fun d hd => not_head_dropWhile d hd
    next => cases h
  all_goals
    cases h
    exact ⟨rfl, trivial⟩

/-- A run of characters ends where the next one is not of its kind. -/
theorem span_append {p : Char → Bool} (hcs : ∀ d ∈ cs, p d = true)
    (hrest : ∀ d, rest.head? = some d → p d = false) :
    (cs ++ rest).takeWhile p = cs ∧ (cs ++ rest).dropWhile p = rest := by
  rw [List.takeWhile_append_of_pos hcs, List.dropWhile_append_of_pos hcs]
  cases rest with
  | nil => simp
  | cons d rest => simp [hrest d rfl]

/-- The scanner finds what stands there. -/
theorem exists_first_eq_ok (h : t.Fits rest) :
    ∃ c cs, t.text.toList ++ rest = c :: cs ∧ isBlank c = false ∧
      ∀ column, first column c cs = .ok (t, rest) := by
  cases t with
  | word text =>
    obtain ⟨⟨c, cs, htext, hstart, hcs⟩, hrest⟩ := h
    obtain ⟨htake, hdrop⟩ := span_append hcs hrest
    refine ⟨c, cs ++ rest, by simp [Token.text, htext], isBlank_eq_false_of_startsWord hstart, ?_⟩
    intro column
    unfold first
    split
    case h_11 => rw [if_pos hstart, htake, hdrop, ← htext, String.ofList_toList]
    all_goals exact absurd hstart (by decide)
  | quoted text =>
    have hcs : ∀ d ∈ text.toList, (d != '"') = true := by
      intro d hd
      rw [bne_iff_ne]
      rintro rfl
      exact h hd
    have hquote : ∀ d, ('"' :: rest).head? = some d → (d != '"') = false := by simp
    obtain ⟨htake, hdrop⟩ := span_append hcs hquote
    refine ⟨'"', text.toList ++ '"' :: rest, by simp [Token.text], by decide, fun column => ?_⟩
    simp [first, htake, hdrop]
  | _ => exact ⟨_, _, rfl, by decide, fun column => rfl⟩

end Token

/-! ## All tokens -/

variable {column : Nat} {cs : List Char} {tokens : List Lexeme} {ts : List Token}

theorem cut_of_scan (h : scan column cs = .ok tokens) : Cut cs (tokens.map (·.token)) := by
  fun_induction scan column cs generalizing tokens with
  | case1 => cases h; exact .nil
  | case2 column c cs hblank ih => exact .blank hblank (ih h)
  | case3 column c cs hblank error hfirst => cases h
  | case4 column c cs hblank token rest hfirst hle ih =>
    cases hscan : scan (column + token.text.length) rest with
    | error error => rw [hscan] at h; cases h
    | ok others =>
      rw [hscan] at h
      cases h
      obtain ⟨htext, hfits⟩ := Token.first_eq_ok hfirst
      rw [htext]
      exact .token hfits (ih hscan)

theorem Cut.exists_scan (h : Cut cs ts) (column : Nat) :
    ∃ tokens, scan column cs = .ok tokens ∧ tokens.map (·.token) = ts := by
  induction h generalizing column with
  | nil => exact ⟨[], by rw [scan], rfl⟩
  | @blank c cs ts hblank hcs ih =>
    obtain ⟨tokens, hscan, htokens⟩ := ih (column + 1)
    refine ⟨tokens, ?_, htokens⟩
    rw [scan, if_pos hblank, hscan]
  | @token t rest ts hfits hrest ih =>
    obtain ⟨c, cs, htext, hblank, hfirst⟩ := Token.exists_first_eq_ok hfits
    obtain ⟨tokens, hscan, rfl⟩ := ih (column + t.text.length)
    refine ⟨⟨column, t⟩ :: tokens, ?_, rfl⟩
    rw [htext, scan, if_neg (by simp [hblank])]
    split
    next error he => rw [hfirst column] at he; cases he
    next token rest' he =>
      rw [hfirst column] at he
      cases he
      rw [hscan]
      rfl

/-- **The scanner finds the tokens of a text**, if it can be cut into tokens. -/
theorem exists_scan_eq_ok_iff :
    (∃ tokens, scan column cs = .ok tokens ∧ tokens.map (·.token) = ts) ↔ Cut cs ts := by
  constructor
  · rintro ⟨tokens, hscan, rfl⟩
    exact cut_of_scan hscan
  · exact fun h => h.exists_scan column

end FormulaFile

end BranchingTime
