/-
Random decisions and choices. `Draws` is what a generator needs of a source of
randomness; `Draws.ofStream` makes the decisions from a stream of numbers.
-/
import BranchingTime.Fault
import BranchingTime.Random.Stream

namespace BranchingTime.Random

/-- A source of randomness with states `σ`. -/
structure Draws (σ : Type) where
  /-- Decide with the given probability, a number in `[0, 1]`. -/
  chance : Float → σ → Bool × σ
  /-- Choose a number below a bound, which is positive. -/
  below : Nat → σ → Nat × σ

/-- Whether a number is in `[0, 1]`. -/
def isProbability (p : Float) : Bool := 0.0 ≤ p && p ≤ 1.0

/-- A computation that draws from a source. -/
abbrev Drawing (σ α : Type) := StateT σ (Except Fault) α

namespace Draws

variable {σ : Type}

/-- Decide with the given probability. -/
def decide (draws : Draws σ) (p : Float) : Drawing σ Bool := fun s =>
  if isProbability p then .ok (draws.chance p s) else .error .improbable

/-- Choose a number below a bound. -/
def choose (draws : Draws σ) (bound : Nat) : Drawing σ Nat := fun s => .ok (draws.below bound s)

end Draws

/-! ## From a stream -/

/-- How many numbers of 64 bits there are. -/
def wordCount : Nat := 18446744073709551616

/-- The high half of the product of a number and `bound` is the choice, if the low
half is at most this. Each of the `bound` choices has equally many numbers then. -/
def fairLimit (bound : Nat) : Nat := (bound <<< (63 - bound.log2)) - 1

/-- Choose a number below `bound`, with at most `retries` further numbers from the
stream if one is not fair. At least half of all numbers are fair, so that the last
one is used as it is with a chance below `2 ^ -retries`. -/
def chooseBelow (bound : Nat) : Nat → Stream → Nat × Stream
  | 0, stream =>
    let (number, stream) := stream.draw
    (number.toNat * bound / wordCount, stream)
  | retries + 1, stream =>
    let (number, stream) := stream.draw
    let product := number.toNat * bound
    if product % wordCount ≤ fairLimit bound then (product / wordCount, stream)
    else chooseBelow bound retries stream

/-- Decide with probability `p`; a sure thing takes no number from the stream. -/
def decideWith (p : Float) (stream : Stream) : Bool × Stream :=
  if p == 1.0 then (true, stream)
  else
    let (number, stream) := stream.draw
    (number < (p * Float.ofNat wordCount).toUInt64, stream)

def Draws.ofStream : Draws Stream where
  chance := decideWith
  below bound stream := chooseBelow bound 256 stream

end BranchingTime.Random
