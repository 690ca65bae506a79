/-
The tokens of expressions: words, literals, labels, punctuation marks, and groups of
tokens in brackets. Marks are single characters; a mark is joined to the next one if
no blank stands between them, so that `&&` can be told from `& &`. Comments are
passed over, apart from those that document what follows them (`///`, `/**`) or what
they are in (`//!`, `/*!`), which count as attributes.
-/
import BranchingTime.Expression.Literal
import BranchingTime.Text.Blank

namespace BranchingTime.Expression

open Text

inductive Bracket where
  | round | square | curly
deriving DecidableEq

inductive Token where
  /-- An identifier or keyword. -/
  | word (name : String)
  | literal (value : Literal)
  /-- A name after a single quote. -/
  | label
  | mark (c : Char) (joined : Bool)
  /-- Tokens between brackets. -/
  | group (bracket : Bracket) (content : List Token)

namespace Token

/-! ## Comments -/

/-- The text of a comment up to its end, from inside it, and what follows it; comments
nest. -/
def comment? : (depth : Nat) → List Char → Option (List Char × List Char)
  | depth, '*' :: '/' :: cs =>
    if depth ≤ 1 then some ([], cs)
    else (comment? (depth - 1) cs).map fun (text, rest) => ('*' :: '/' :: text, rest)
  | depth, '/' :: '*' :: cs =>
    (comment? (depth + 1) cs).map fun (text, rest) => ('/' :: '*' :: text, rest)
  | depth, c :: cs => (comment? depth cs).map fun (text, rest) => (c :: text, rest)
  | _, [] => none

/-- The text up to the end of the line, and what follows it. -/
def line : List Char → List Char × List Char
  | [] => ([], [])
  | '\n' :: cs => ([], '\n' :: cs)
  | '\r' :: '\n' :: cs => ([], '\n' :: cs)
  | c :: cs => let (text, rest) := line cs; (c :: text, rest)

/-- Whether every carriage return in a text stands before a line feed. -/
def hasWholeLineEnds : List Char → Bool
  | '\r' :: '\n' :: cs => hasWholeLineEnds cs
  | '\r' :: _ => false
  | _ :: cs => hasWholeLineEnds cs
  | [] => true

/-- The tokens of an attribute that holds a documenting text, after the marks at its
start. -/
def documenting? (marks : List Char) (text : List Char) : Option (List Token) :=
  if hasWholeLineEnds text then
    some (marks.map (.mark · false) ++
      [.group .square [.word "doc", .mark '=' false, .literal (.text (.ofList text))]])
  else none

/-! ## Pieces of text -/

/-- What a text is cut into. -/
inductive Piece where
  /-- Tokens that are whole; none for a blank or a comment. -/
  | tokens (tokens : List Token)
  | opening (bracket : Bracket)
  | closing (bracket : Bracket)

/-- The punctuation marks. -/
def isMark (c : Char) : Bool := "~!@#$%^&*-=+|;:,<.>/?'".toList.contains c

/-- Whether a mark before this text is joined to a mark at its start. -/
def isJoined : List Char → Bool
  | '/' :: '/' :: _ | '/' :: '*' :: _ => false
  | c :: _ => isMark c
  | [] => false

/-- Blanks between tokens; marks of writing direction count as such. -/
def isGap (c : Char) : Bool := isBlank c || c == '\u200e' || c == '\u200f'

/-- The identifier at the start of a text, and what follows it. Most words are also
identifiers after `r#`, where they are never keywords. -/
def identifier? : List Char → Option (String × List Char)
  | 'r' :: '#' :: cs => do
    let name := cs.takeWhile continuesIdentifier
    if !name.head?.any startsIdentifier then none
    let name := String.ofList name
    if ["_", "self", "Self", "super", "crate"].contains name then none
    return ("r#" ++ name, cs.dropWhile continuesIdentifier)
  | c :: cs =>
    if startsIdentifier c then
      some (.ofList (c :: cs.takeWhile continuesIdentifier), cs.dropWhile continuesIdentifier)
    else none
  | [] => none

/-- What follows a label, from after its quote. Neither a quote nor a hash may come
next. -/
def afterLabel? (cs : List Char) : Option (List Char) := do
  let (name, rest) ← identifier? cs
  match rest with
  | '\'' :: _ => none
  | '#' :: _ => if name.startsWith "r#" then some rest else none
  | _ => some rest

/-- What a comment comes to, from after its first two characters, and what follows
it. -/
def commentPiece? (first : Char) (cs : List Char) : Option (List Token × List Char) :=
  if first == '/' then
    match cs with
    | '/' :: '/' :: _ => some ([], (line cs).2)
    | '/' :: cs => do return (← documenting? ['#'] (line cs).1, (line cs).2)
    | '!' :: cs => do return (← documenting? ['#', '!'] (line cs).1, (line cs).2)
    | _ => some ([], (line cs).2)
  else do
    let (text, rest) ← comment? 1 cs
    match cs with
    | '*' :: '/' :: _ | '*' :: '*' :: _ => return ([], rest)
    | '*' :: _ => return (← documenting? ['#'] text, rest)
    | '!' :: _ => return (← documenting? ['#', '!'] text, rest)
    | _ => return ([], rest)

def bracket? : Char → Option Piece
  | '(' => some (.opening .round)
  | ')' => some (.closing .round)
  | '[' => some (.opening .square)
  | ']' => some (.closing .square)
  | '\x7b' => some (.opening .curly)
  | '\x7d' => some (.closing .curly)
  | _ => none

/-- What stands for a literal that could not be made. -/
def failedLiteral : String := "(/*ERROR*/)"

/-- The piece at the start of a text, and what follows it. -/
def piece? (cs : List Char) : Option (Piece × List Char) :=
  if failedLiteral.toList.isPrefixOf cs then
    some (.tokens [.literal (.foreign failedLiteral)], cs.drop failedLiteral.length)
  else if Literal.isAhead cs then
    (Literal.read? cs).map fun (value, rest) => (.tokens [.literal value], rest)
  else
    match cs with
    | [] => none
    | '/' :: '/' :: rest => (commentPiece? '/' rest).map fun (ts, rest) => (.tokens ts, rest)
    | '/' :: '*' :: rest => (commentPiece? '*' rest).map fun (ts, rest) => (.tokens ts, rest)
    | '\'' :: rest =>
      match Literal.read? cs with
      | some (value, rest) => some (.tokens [.literal value], rest)
      | none => (afterLabel? rest).map fun rest => (.tokens [.label], rest)
    | c :: rest =>
      if isGap c then some (.tokens [], rest)
      else if startsIdentifier c then
        (identifier? cs).map fun (name, rest) => (.tokens [.word name], rest)
      else
        match bracket? c with
        | some piece => some (piece, rest)
        | none => if isMark c then some (.tokens [.mark c (isJoined rest)], rest) else none

/-! ## Scanning -/

/-- The tokens of a text, in at most `steps` steps, after the tokens `before` in the
open brackets `outer`, each of which has tokens before it. Tokens that are there
already come last first. -/
def scanSteps : (steps : Nat) → (outer : List (Bracket × List Token)) →
    (before : List Token) → List Char → Option (List Token)
  | _, [], before, [] => some before.reverse
  | _, _ :: _, _, [] => none
  | 0, _, _, _ :: _ => none
  | steps + 1, outer, before, cs => do
    match ← piece? cs with
    | (.tokens tokens, rest) => scanSteps steps outer (tokens.reverse ++ before) rest
    | (.opening bracket, rest) => scanSteps steps ((bracket, before) :: outer) [] rest
    | (.closing bracket, rest) =>
      match outer with
      | (opened, around) :: outer =>
        if opened = bracket then
          scanSteps steps outer (.group bracket before.reverse :: around) rest
        else none
      | [] => none

/-- The tokens of an expression. Every step takes a character at least, so there are
steps enough. -/
def scan (text : String) : Option (List Token) :=
  let cs := text.toList
  let cs := if cs.head? = some '\ufeff' then cs.drop 1 else cs
  scanSteps cs.length [] [] cs

end Token

end BranchingTime.Expression
