/-
The tokens of written formulas, and how a text is cut into them. Blanks separate
tokens and are otherwise ignored. Words are as long as possible; a quoted text
ends at the next quote. Every token knows the column where it starts.
-/
import BranchingTime.Text.Blank
import BranchingTime.Text.Letter

namespace BranchingTime.FormulaFile

open Text

inductive Token where
  /-- A name or keyword. -/
  | word (text : String)
  /-- Text between quotes. -/
  | quoted (text : String)
  | bang
  | ampersands
  | bars
  | arrow
  | doubleArrow
  | openRound
  | closeRound
  | openSquare
  | closeSquare
deriving DecidableEq

/-- A token and the column of its first character. -/
structure Lexeme where
  column : Nat
  token : Token
deriving DecidableEq

/-- What keeps a text from being cut into tokens, and the column where. -/
inductive TokenError where
  | invalidCharacter (column : Nat) (c : Char)
  | unterminated (column : Nat)
deriving DecidableEq

namespace Token

/-- The token as it is written. -/
def text : Token → String
  | word text => text
  | quoted text => "\"" ++ text ++ "\""
  | bang => "!"
  | ampersands => "&&"
  | bars => "||"
  | arrow => "->"
  | doubleArrow => "<->"
  | openRound => "("
  | closeRound => ")"
  | openSquare => "["
  | closeSquare => "]"

def startsWord (c : Char) : Bool := isLetter c || c == '_'

def continuesWord (c : Char) : Bool := isLetter c || isNumber c || c == '_' || c == '.'

/-- The token that starts with `c`, and what follows it. -/
def first (column : Nat) (c : Char) (cs : List Char) : Except TokenError (Token × List Char) :=
  match c, cs with
  | '<', '-' :: '>' :: rest => .ok (doubleArrow, rest)
  | '-', '>' :: rest => .ok (arrow, rest)
  | '&', '&' :: rest => .ok (ampersands, rest)
  | '|', '|' :: rest => .ok (bars, rest)
  | '!', rest => .ok (bang, rest)
  | '(', rest => .ok (openRound, rest)
  | ')', rest => .ok (closeRound, rest)
  | '[', rest => .ok (openSquare, rest)
  | ']', rest => .ok (closeSquare, rest)
  | '"', rest =>
    match rest.dropWhile (· != '"') with
    | [] => .error (.unterminated column)
    | _ :: after => .ok (quoted (.ofList (rest.takeWhile (· != '"'))), after)
  | c, rest =>
    if startsWord c then
      .ok (word (.ofList (c :: rest.takeWhile continuesWord)), rest.dropWhile continuesWord)
    else .error (.invalidCharacter column c)

theorem length_dropWhile_le {α : Type} (p : α → Bool) (l : List α) :
    (l.dropWhile p).length ≤ l.length :=
  (List.dropWhile_sublist p).length_le

/-- A token takes up its first character at least. -/
theorem length_of_first {column : Nat} {c : Char} {cs rest : List Char} {t : Token}
    (h : first column c cs = .ok (t, rest)) : rest.length ≤ cs.length := by
  unfold first at h
  split at h
  case h_10 =>
    have hle := length_dropWhile_le (· != '"') cs
    split at h
    · cases h
    · simp_all; omega
  case h_11 =>
    split at h
    · simp only [Except.ok.injEq, Prod.mk.injEq] at h
      rw [← h.2]
      exact length_dropWhile_le _ _
    · cases h
  all_goals
    simp only [Except.ok.injEq, Prod.mk.injEq] at h
    simp [← h.2]
  all_goals omega

end Token

/-- The tokens of a text whose first character stands in `column`. -/
def scan (column : Nat) (cs : List Char) : Except TokenError (List Lexeme) :=
  match cs with
  | [] => .ok []
  | c :: cs =>
    if isBlank c then scan (column + 1) cs
    else
      match h : Token.first column c cs with
      | .error error => .error error
      | .ok (token, rest) =>
        have := Token.length_of_first h
        return ⟨column, token⟩ :: (← scan (column + token.text.length) rest)
termination_by cs.length

end BranchingTime.FormulaFile
