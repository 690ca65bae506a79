/-
Integers in text: ASCII digits, which an optional sign precedes. A minus is for
signed numbers only. Text is read from the left, and the first thing wrong with
it is reported: a character that is no digit, or a digit that makes the number
leave its range.
-/

namespace BranchingTime.Text

inductive IntegerError where
  | empty
  | invalidDigit
  | tooLarge
  | tooSmall
deriving DecidableEq

namespace IntegerError

def message : IntegerError → String
  | empty => "cannot parse integer from empty string"
  | invalidDigit => "invalid digit found in string"
  | tooLarge => "number too large to fit in target type"
  | tooSmall => "number too small to fit in target type"

end IntegerError

/-- The value of an ASCII digit. -/
def digit? (c : Char) : Option Nat :=
  if c.isDigit then some (c.toNat - '0'.toNat) else none

/-- Read on, after digits of value `value`, as long as the number is at most
`limit`; `overflow` is the error of a larger one. -/
def readDigits (limit : Nat) (overflow : IntegerError) : Nat → List Char → Except IntegerError Nat
  | value, [] => .ok value
  | value, c :: cs =>
    match digit? c with
    | none => .error .invalidDigit
    | some d =>
      if value * 10 + d ≤ limit then readDigits limit overflow (value * 10 + d) cs
      else .error overflow

/-- Read the digits of a number, of which there must be some. -/
def readMagnitude (limit : Nat) (overflow : IntegerError) (cs : List Char) :
    Except IntegerError Nat :=
  if cs.isEmpty then .error .invalidDigit else readDigits limit overflow 0 cs

/-- The largest unsigned number of 64 bits. -/
def largestNat : Nat := 18446744073709551615

/-- The largest signed number of 64 bits. -/
def largestInt : Nat := 9223372036854775807

/-- Read an unsigned number of 64 bits. -/
def readNat : List Char → Except IntegerError Nat
  | [] => .error .empty
  | '+' :: cs => readMagnitude largestNat .tooLarge cs
  | cs => readMagnitude largestNat .tooLarge cs

/-- Read a signed number of 64 bits. -/
def readInt : List Char → Except IntegerError Int
  | [] => .error .empty
  | '+' :: cs => return ← readMagnitude largestInt .tooLarge cs
  | '-' :: cs => return - (← readMagnitude (largestInt + 1) .tooSmall cs : Nat)
  | cs => return ← readMagnitude largestInt .tooLarge cs

end BranchingTime.Text
