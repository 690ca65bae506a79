/-
The stream of numbers behind random systems: ChaCha with twenty rounds, keyed
from a seed of 64 bits. The sixteen words of a block are arranged in four rows; a
round works on the columns of the rows, and every other round on the diagonals,
which are columns once the rows are turned. Numbers of 64 bits are made of two
words each, the low one first.
-/

namespace BranchingTime.Random

/-- Four words. -/
structure Row where
  w₀ : UInt32
  w₁ : UInt32
  w₂ : UInt32
  w₃ : UInt32
deriving DecidableEq

/-- Turn the bits of a word to the left. -/
def turnLeft (w : UInt32) (by_ : UInt32) : UInt32 := (w <<< by_) ||| (w >>> (32 - by_))

/-- Turn the bits of a word to the right. -/
def turnRight (w : UInt32) (by_ : UInt32) : UInt32 :=
  if by_ = 0 then w else turnLeft w (32 - by_)

/-- A number of 64 bits from its low and its high word. -/
def join (low high : UInt32) : UInt64 := low.toUInt64 ||| (high.toUInt64 <<< 32)

namespace Row

def map₂ (f : UInt32 → UInt32 → UInt32) (r s : Row) : Row :=
  ⟨f r.w₀ s.w₀, f r.w₁ s.w₁, f r.w₂ s.w₂, f r.w₃ s.w₃⟩

def add (r s : Row) : Row := map₂ (· + ·) r s

/-- The bits where two rows differ, turned to the left. -/
def mix (by_ : UInt32) (r s : Row) : Row := map₂ (fun a b => turnLeft (a ^^^ b) by_) r s

/-- The row with its words moved on by one place. -/
def turn (r : Row) : Row := ⟨r.w₁, r.w₂, r.w₃, r.w₀⟩

end Row

/-- The sixteen words of a block. -/
structure Block where
  a : Row
  b : Row
  c : Row
  d : Row
deriving DecidableEq

namespace Block

/-- A round on the four columns at once. -/
def columns (m : Block) : Block :=
  let a := m.a.add m.b
  let d := m.d.mix 16 a
  let c := m.c.add d
  let b := m.b.mix 12 c
  let a := a.add b
  let d := d.mix 8 a
  let c := c.add d
  let b := b.mix 7 c
  ⟨a, b, c, d⟩

/-- Turn the rows so that the diagonals become columns. -/
def slant (m : Block) : Block := ⟨m.a, m.b.turn, m.c.turn.turn, m.d.turn.turn.turn⟩

/-- Turn the rows back. -/
def straighten (m : Block) : Block := ⟨m.a, m.b.turn.turn.turn, m.c.turn.turn, m.d.turn⟩

/-- A round on the columns and one on the diagonals. -/
def doubleRound (m : Block) : Block := m.columns.slant.columns.straighten

def rounds : Nat → Block → Block
  | 0, m => m
  | n + 1, m => rounds n m.doubleRound

/-- Twenty rounds, added to where they started. -/
def scramble (m : Block) : Block :=
  let r := rounds 10 m
  ⟨r.a.add m.a, r.b.add m.b, r.c.add m.c, r.d.add m.d⟩

/-- The first number of a block. -/
def first (m : Block) : UInt64 := join m.a.w₀ m.a.w₁

/-- The other numbers of a block. -/
def others (m : Block) : List UInt64 :=
  [join m.a.w₂ m.a.w₃, join m.b.w₀ m.b.w₁, join m.b.w₂ m.b.w₃, join m.c.w₀ m.c.w₁,
    join m.c.w₂ m.c.w₃, join m.d.w₀ m.d.w₁, join m.d.w₂ m.d.w₃]

end Block

/-- The first row of every block before it is scrambled. -/
def constants : Row := ⟨0x61707865, 0x3320646e, 0x79622d32, 0x6b206574⟩

/-- A stream of numbers: its key, the number of the next block, and what is left of
the block before it. -/
structure Stream where
  low : Row
  high : Row
  next : UInt64 := 0
  rest : List UInt64 := []

namespace Stream

/-- The block of the given number. -/
def block (stream : Stream) (number : UInt64) : Block :=
  Block.scramble ⟨constants, stream.low, stream.high,
    ⟨number.toUInt32, (number >>> 32).toUInt32, 0, 0⟩⟩

/-- The next number of the stream. -/
def draw (stream : Stream) : UInt64 × Stream :=
  match stream.rest with
  | number :: rest => (number, { stream with rest })
  | [] =>
    let block := stream.block stream.next
    (block.first, { stream with next := stream.next + 1, rest := block.others })

/-! ## Keys -/

/-- The next state of the generator that spreads a seed over a key. -/
def spread (state : UInt64) : UInt64 := state * 6364136223846793005 + 11634580027462260723

/-- The key word of a state of that generator. -/
def keyWord (state : UInt64) : UInt32 :=
  turnRight (((state >>> 18) ^^^ state) >>> 27).toUInt32 (state >>> 59).toUInt32

/-- Four key words, and the state after them. -/
def keyRow (state : UInt64) : Row × UInt64 :=
  let s₀ := spread state
  let s₁ := spread s₀
  let s₂ := spread s₁
  let s₃ := spread s₂
  (⟨keyWord s₀, keyWord s₁, keyWord s₂, keyWord s₃⟩, s₃)

def ofSeed (seed : UInt64) : Stream :=
  let (low, state) := keyRow seed
  let (high, _) := keyRow state
  { low, high }

end Stream

end BranchingTime.Random
