/-
The literals of expressions: strings, characters and bytes, plain and raw, and
numbers. Only the values of strings and of whole numbers matter, since strings name
propositions and numbers name fields; of the others it is enough to know where they
end. A word may follow a literal directly and belongs to it.
-/
import BranchingTime.Text.Identifier

namespace BranchingTime.Expression

open Text

inductive Literal where
  | text (value : String)
  /-- A whole number, perhaps with a word after it. -/
  | integer (value : Nat) (suffixed : Bool)
  /-- A number with a fraction or an exponent, as it is written. -/
  | decimal (written : String)
  /-- A character, a byte or a string of bytes. -/
  | plain
  /-- A literal of a kind that expressions do not have, as it is written. -/
  | foreign (written : String)

namespace Literal

/-- What follows the word at the start of a text, if there is one. -/
def dropWord : List Char → List Char
  | [] => []
  | c :: cs => if startsIdentifier c then cs.dropWhile continuesIdentifier else c :: cs

/-! ## Escapes -/

/-- The value of a hexadecimal digit. -/
def hexDigit? (c : Char) : Option Nat :=
  if c.isDigit then some (c.toNat - '0'.toNat)
  else if 'a' ≤ c ∧ c ≤ 'f' then some (c.toNat - 'a'.toNat + 10)
  else if 'A' ≤ c ∧ c ≤ 'F' then some (c.toNat - 'A'.toNat + 10)
  else none

/-- The character of a code point, if it has one. -/
def char? (code : Nat) : Option Char :=
  if code.isValidChar then some (Char.ofNat code) else none

/-- What a one-letter escape stands for. -/
def escape? : Char → Option Char
  | 'n' => some '\n'
  | 'r' => some '\r'
  | 't' => some '\t'
  | '0' => some '\x00'
  | '\\' => some '\\'
  | '\'' => some '\''
  | '"' => some '"'
  | _ => none

/-- What a string is made of. -/
inductive Alphabet where
  | characters
  | bytes
  /-- Characters and bytes other than zero, which ends the string. -/
  | terminated
deriving DecidableEq

namespace Alphabet

/-- The largest code of an escape with two hexadecimal digits. -/
def largestCode : Alphabet → Nat
  | characters => 127
  | bytes | terminated => 255

/-- Whether a character may be in a string. -/
def admits : Alphabet → Char → Bool
  | characters, _ => true
  | bytes, c => c.toNat < 128
  | terminated, c => c != '\x00'

/-- Whether an escape may stand for this character. -/
def admitsEscaped : Alphabet → Char → Bool
  | terminated, c => c != '\x00'
  | _, _ => true

end Alphabet

/-- The code point in braces, after `count` digits of value `value`, and what
follows it. -/
def code? : Nat → Nat → List Char → Option (Char × List Char)
  | _, _, [] => none
  | count, value, c :: cs =>
    if c == '\x7d' then do
      if count = 0 then none
      return (← char? value, cs)
    else if c == '_' && count > 0 then code? count value cs
    else do
      let d ← hexDigit? c
      if count ≥ 6 then none
      code? (count + 1) (value * 16 + d) cs

/-- The character that an escape stands for, from after the backslash, and what
follows it. -/
def escaped? (alphabet : Alphabet) (cs : List Char) : Option (Char × List Char) := do
  let (c, rest) ← match cs with
    | 'x' :: high :: low :: cs => do
      let code := (← hexDigit? high) * 16 + (← hexDigit? low)
      if code > alphabet.largestCode then none else some (Char.ofNat code, cs)
    | 'u' :: '\x7b' :: cs => if alphabet = .bytes then none else code? 0 0 cs
    | c :: cs => (escape? c).map (·, cs)
    | [] => none
  if alphabet.admitsEscaped c then some (c, rest) else none

/-! ## Strings -/

/-- What follows the line end and the blanks after a backslash. A carriage return
stands before a line feed only. -/
def afterIndent? : List Char → Option (List Char)
  | '\r' :: '\n' :: cs => afterIndent? cs
  | '\r' :: _ => none
  | c :: cs => if c == ' ' || c == '\t' || c == '\n' then afterIndent? cs else some (c :: cs)
  | [] => none

/-- The value of a string and what follows it, from after its opening quote, in at
most `steps` steps. -/
def stringSteps? (alphabet : Alphabet) : Nat → List Char → Option (List Char × List Char)
  | 0, _ | _, [] => none
  | steps + 1, c :: cs =>
    let followedBy (c : Char) (rest : List Char) :=
      (stringSteps? alphabet steps rest).map fun (value, rest) => (c :: value, rest)
    match c, cs with
    | '"', rest => some ([], rest)
    | '\\', '\n' :: _ | '\\', '\r' :: _ => do stringSteps? alphabet steps (← afterIndent? cs)
    | '\\', rest => do
      let (c, rest) ← escaped? alphabet rest
      followedBy c rest
    | '\r', '\n' :: rest => followedBy '\n' rest
    | '\r', _ => none
    | c, rest => if alphabet.admits c then followedBy c rest else none

/-- The value of a string and what follows it, from after its opening quote. -/
def string? (alphabet : Alphabet) (cs : List Char) : Option (List Char × List Char) :=
  stringSteps? alphabet cs.length cs

/-- The value of a raw string and what follows it: it ends at a quote with `hashes`
after it. -/
def rawString? (alphabet : Alphabet) (hashes : List Char) :
    List Char → Option (List Char × List Char)
  | [] => none
  | '\r' :: '\n' :: cs =>
    (rawString? alphabet hashes cs).map fun (value, rest) => ('\r' :: '\n' :: value, rest)
  | '\r' :: _ => none
  | c :: cs =>
    if c == '"' && hashes.isPrefixOf cs then some ([], cs.drop hashes.length)
    else if alphabet.admits c then
      (rawString? alphabet hashes cs).map fun (value, rest) => (c :: value, rest)
    else none

/-- The most hashes that can stand before a raw string. -/
def mostHashes : Nat := 255

/-- The value of a raw string and what follows it, from after its `r`. -/
def raw? (alphabet : Alphabet) (cs : List Char) : Option (List Char × List Char) :=
  let hashes := cs.takeWhile (· == '#')
  if hashes.length > mostHashes then none
  else
    match cs.drop hashes.length with
    | '"' :: rest => rawString? alphabet hashes rest
    | _ => none

/-- What follows a single character, from after its opening quote. -/
def afterChar? (alphabet : Alphabet) (cs : List Char) : Option (List Char) := do
  let (_, rest) ← match cs with
    | '\\' :: cs => escaped? alphabet cs
    | c :: cs => if alphabet.admits c then some (c, cs) else none
    | [] => none
  match rest with
  | '\'' :: rest => some rest
  | _ => none

/-! ## Numbers -/

/-- The value of the digits at the start of a text, after digits of value `value`, and
what follows them. There has to be a digit; one that is too large for the base is
refused. -/
def digits? (base : Nat) : (value : Nat) → (empty : Bool) → List Char → Option (Nat × List Char)
  | value, empty, [] => if empty then none else some (value, [])
  | value, empty, c :: cs =>
    if c == '_' then digits? base value empty cs
    else
      match hexDigit? c with
      | some d =>
        if d < base then digits? base (value * base + d) false cs
        else if c.isDigit || empty then none
        else some (value, c :: cs)
      | none => if empty then none else some (value, c :: cs)

/-- The value of a whole number without the word after it, and what follows it. -/
def natural? : List Char → Option (Nat × List Char)
  | '0' :: 'x' :: cs => digits? 16 0 true cs
  | '0' :: 'o' :: cs => digits? 8 0 true cs
  | '0' :: 'b' :: cs => digits? 2 0 true cs
  | cs => digits? 10 0 true cs

/-- An exponent and what follows it, from after its letter: at most one sign, which is
before all digits, and a digit at least. -/
def exponent? : (signed valued : Bool) → List Char → Option (List Char × List Char)
  | _, valued, [] => if valued then some ([], []) else none
  | signed, valued, c :: cs =>
    let followedBy := Option.map fun ((exponent, rest) : List Char × List Char) =>
      (c :: exponent, rest)
    if c.isDigit then followedBy (exponent? signed true cs)
    else if c == '_' then followedBy (exponent? signed valued cs)
    else if (c == '+' || c == '-') && !valued then
      if signed then none else followedBy (exponent? true false cs)
    else if valued then some ([], c :: cs)
    else none

/-- A number with a fraction or an exponent, without the word after it, and what
follows it. No dot and no name may come after the dot. -/
def fraction? (cs : List Char) : Option (List Char × List Char) :=
  let isPart (c : Char) := c.isDigit || c == '_'
  let whole := cs.takeWhile isPart
  match cs.drop whole.length with
  | '.' :: cs =>
    if cs.head?.any fun c => c == '.' || startsIdentifier c then none
    else
      let fraction := cs.takeWhile isPart
      let written := whole ++ '.' :: fraction
      match cs.drop fraction.length with
      | e :: rest =>
        if e == 'e' || e == 'E' then
          match exponent? false false rest with
          | some (exponent, rest) => some (written ++ e :: exponent, rest)
          | none => some (written, e :: rest)
        else some (written, e :: rest)
      | [] => some (written, [])
  | e :: cs =>
    if e == 'e' || e == 'E' then
      (exponent? false false cs).map fun (exponent, rest) => (whole ++ e :: exponent, rest)
    else none
  | [] => none

/-- What follows a literal and the word after it. The literal cannot go on with
another character of identifiers. -/
def afterSuffix? (cs : List Char) : Option (List Char) :=
  let rest := dropWord cs
  if rest.head?.any continuesIdentifier then none else some rest

/-- The number with a fraction or an exponent at the start of a text, and what follows
it. -/
def decimal? (cs : List Char) : Option (Literal × List Char) := do
  let (written, rest) ← fraction? cs
  let after ← afterSuffix? rest
  let suffix := rest.take (rest.length - after.length)
  return (decimal (.ofList (written ++ suffix)), after)

/-- The whole number at the start of a text, and what follows it. -/
def integer? (cs : List Char) : Option (Literal × List Char) := do
  let (value, rest) ← natural? cs
  let after ← afterSuffix? rest
  return (integer value (after.length < rest.length), after)

/-- The number at the start of a text, and what follows it. Where an exponent cannot
end, it belongs to the word after a whole number. -/
def number? (cs : List Char) : Option (Literal × List Char) := decimal? cs <|> integer? cs

/-! ## Literals -/

/-- Whether a text has to start with a literal. Nothing else starts in this way. -/
def isAhead : List Char → Bool
  | '"' :: _
  | 'r' :: '"' :: _ | 'r' :: '#' :: '"' :: _ | 'r' :: '#' :: '#' :: _
  | 'b' :: '"' :: _ | 'b' :: '\'' :: _ | 'b' :: 'r' :: '"' :: _ | 'b' :: 'r' :: '#' :: _
  | 'c' :: '"' :: _ | 'c' :: 'r' :: '"' :: _ | 'c' :: 'r' :: '#' :: _ => true
  | c :: _ => c.isDigit
  | [] => false

/-- The literal at the start of a text, and what follows it. -/
def read? (cs : List Char) : Option (Literal × List Char) :=
  let quoted (kind : Literal) (after? : Option (List Char)) :=
    after?.map fun rest => (kind, dropWord rest)
  let texts (read? : Option (List Char × List Char)) :=
    read?.map fun (value, rest) => (text (.ofList value), dropWord rest)
  let foreigns (read? : Option (List Char × List Char)) :=
    read?.map fun (_, rest) =>
      let after := dropWord rest
      (foreign (.ofList (cs.take (cs.length - after.length))), after)
  match cs with
  | '"' :: rest => texts (string? .characters rest)
  | 'r' :: rest => texts (raw? .characters rest)
  | 'b' :: '"' :: rest => quoted plain ((string? .bytes rest).map (·.2))
  | 'b' :: 'r' :: rest => quoted plain ((raw? .bytes rest).map (·.2))
  | 'b' :: '\'' :: rest => quoted plain (afterChar? .bytes rest)
  | 'c' :: '"' :: rest => foreigns (string? .terminated rest)
  | 'c' :: 'r' :: rest => foreigns (raw? .terminated rest)
  | '\'' :: rest => quoted plain (afterChar? .characters rest)
  | _ => number? cs

end Literal

end BranchingTime.Expression
