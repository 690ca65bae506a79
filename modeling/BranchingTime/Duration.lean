/-
Lengths of time, and their text: in the largest of the units s, ms, µs and ns
that is not larger than the duration, with as many decimals as it needs.
-/

namespace BranchingTime

structure Duration where
  nanoseconds : Nat
deriving DecidableEq

namespace Duration

def ofSeconds (seconds : Nat) : Duration := ⟨seconds * 1000000000⟩

/-- The unit in which a duration is written, and its length in nanoseconds. -/
def scale (d : Duration) : String × Nat :=
  if d.nanoseconds ≥ 1000000000 then ("s", 1000000000)
  else if d.nanoseconds ≥ 1000000 then ("ms", 1000000)
  else if d.nanoseconds ≥ 1000 then ("µs", 1000)
  else ("ns", 1)

/-- The decimals of `rest / unit`, where `unit` is a power of ten: none for zero,
and no zeros at the end. -/
def decimals (unit rest : Nat) : String :=
  if rest = 0 then ""
  else
    let digits := (toString (unit + rest)).toList.drop 1
    "." ++ String.ofList (digits.reverse.dropWhile (· == '0')).reverse

def render (d : Duration) : String :=
  let (symbol, unit) := d.scale
  toString (d.nanoseconds / unit) ++ decimals unit (d.nanoseconds % unit) ++ symbol

end Duration

end BranchingTime
