/-
Formula files. Every line that is not blank and does not start with `#` names a
formula: its name stands before the first colon, the formula after it. Lines and
columns are counted from one, a column in characters from the start of its line.
-/
import BranchingTime.FormulaFile.Parser

namespace BranchingTime.FormulaFile

open Text

/-- What is wrong with a line. -/
inductive Problem where
  | missingName
  | invalidCharacter (column : Nat) (c : Char)
  | unterminated (column : Nat)
  | unexpectedToken (found : Lexeme) (expected : Expected)
  | unexpectedEnd (expected : Expected)
deriving DecidableEq

/-- The first line that is wrong, and what is wrong with it. -/
structure Error where
  line : Nat
  problem : Problem
deriving DecidableEq

namespace Problem

def ofTokenError : TokenError → Problem
  | .invalidCharacter column c => invalidCharacter column c
  | .unterminated column => unterminated column

def ofParseError : ParseError → Problem
  | .unexpectedToken found expected => unexpectedToken found expected
  | .unexpectedEnd expected => unexpectedEnd expected

end Problem

namespace Error

def message : Error → String
  | ⟨line, .missingName⟩ => s!"line {line}: expected `name: formula`"
  | ⟨line, .invalidCharacter column c⟩ =>
    s!"line {line}, column {column}: unexpected character `{c}`"
  | ⟨line, .unterminated column⟩ => s!"line {line}, column {column}: unterminated string"
  | ⟨line, .unexpectedToken found expected⟩ =>
    s!"line {line}, column {found.column}: unexpected `{found.token.text}`, " ++
      s!"expected {expected.message}"
  | ⟨line, .unexpectedEnd expected⟩ =>
    s!"line {line}: unexpected end of the formula, expected {expected.message}"

end Error

/-- The formula in a text whose first character stands in `column`. -/
def parseFormula (column : Nat) (text : List Char) : Except Problem Formula := do
  let tokens ← (scan column text).mapError .ofTokenError
  (parseTokens tokens).mapError .ofParseError

/-- The name and the formula on a line. -/
def parseEntry (line : List Char) : Except Problem (String × Formula) :=
  match cut? [':'] line with
  | none => .error .missingName
  | some (before, after) => do
    if (trim before).isEmpty then throw .missingName
    return (.ofList (trim before), ← parseFormula (before.length + 2) after)

/-- The entries of a file, from the line of the given number on. -/
def parseLines : Nat → List (List Char) → Except Error (List (String × Formula))
  | _, [] => .ok []
  | number, line :: rest =>
    if isIgnored line then parseLines (number + 1) rest
    else do
      let entry ← (parseEntry line).mapError fun problem => ⟨number, problem⟩
      return entry :: (← parseLines (number + 1) rest)

/-- The named formulas of a file, in its order. -/
def parse (text : String) : Except Error (List (String × Formula)) :=
  parseLines 1 (lines text.toList)

end BranchingTime.FormulaFile
