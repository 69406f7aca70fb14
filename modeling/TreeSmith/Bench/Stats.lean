/-!
# Statistics of timings

The least, mean, middle and greatest of some numbers and how far they spread.  The
numbers are sorted first, so that the order in which they come does not matter, not
even for rounding.  Numbers are given by their bits throughout, and the arithmetic on
them is a parameter.

## Main definitions

* `totalKey` — the place of a number in the total order of binary representations.
* `Arithmetic`, `Arithmetic.floats` — arithmetic on numbers by their bits.
* `Stats`, `Stats.computed?`, `Stats.ofSamples?`.
-/

namespace TreeSmith.Bench

/-- The place of a number in the total order: what is negative and not a number comes
first, then the negative numbers, negative zero, zero, the positive numbers, and what
is not a number. -/
def totalKey (bits : UInt64) : Nat :=
  let n := bits.toNat
  if n < Nat.pow 2 63 then Nat.pow 2 63 + n else Nat.pow 2 64 - 1 - n

/-- Numbers in the total order. -/
def sorted (samples : List UInt64) : List UInt64 :=
  samples.mergeSort fun a b => totalKey a ≤ totalKey b

/-- Arithmetic on numbers by their bits. -/
structure Arithmetic where
  /-- The sum of two numbers. -/
  add : UInt64 → UInt64 → UInt64
  /-- The difference of two numbers. -/
  sub : UInt64 → UInt64 → UInt64
  /-- The quotient of two numbers. -/
  div : UInt64 → UInt64 → UInt64
  /-- The second power of a number. -/
  square : UInt64 → UInt64
  /-- The square root of a number. -/
  sqrt : UInt64 → UInt64
  /-- The number nearest to a count. -/
  ofNat : Nat → UInt64

/-- The arithmetic of binary floating point. -/
def Arithmetic.floats : Arithmetic where
  add a b := (Float.ofBits a + Float.ofBits b).toBits
  sub a b := (Float.ofBits a - Float.ofBits b).toBits
  div a b := (Float.ofBits a / Float.ofBits b).toBits
  square a := (Float.ofBits a * Float.ofBits a).toBits
  sqrt a := (Float.ofBits a).sqrt.toBits
  ofNat n := (Float.ofNat n).toBits

namespace Arithmetic

/-- The bits of negative zero. -/
def negativeZero : UInt64 := 0x8000000000000000

variable (arith : Arithmetic)

/-- The sum of numbers from left to right, which is negative zero for none. -/
def sum (xs : List UInt64) : UInt64 := xs.foldl arith.add negativeZero

/-- The middle of numbers in order: the one there, or the mean of the two there. -/
def middle (xs : List UInt64) : UInt64 :=
  let half := xs.length / 2
  let upper := xs.getD half 0
  if xs.length % 2 = 0 then arith.div (arith.add (xs.getD (half - 1) 0) upper) (arith.ofNat 2)
  else upper

/-- The mean of numbers. -/
def mean (xs : List UInt64) : UInt64 := arith.div (arith.sum xs) (arith.ofNat xs.length)

/-- The mean square distance of numbers from their mean. -/
def variance (xs : List UInt64) : UInt64 :=
  let center := arith.mean xs
  arith.div (arith.sum (xs.map fun x => arith.square (arith.sub x center)))
    (arith.ofNat xs.length)

end Arithmetic

/-- The statistics of some numbers, by the bits of each. -/
structure Stats where
  /-- The least number. -/
  min : UInt64
  /-- The mean. -/
  mean : UInt64
  /-- The number in the middle, or the mean of the two there. -/
  median : UInt64
  /-- The greatest number. -/
  max : UInt64
  /-- The standard deviation. -/
  stdDev : UInt64
  deriving DecidableEq, Repr

/-- The statistics of numbers in order, the first of them given apart. -/
def Stats.ofSorted (arith : Arithmetic) (first : UInt64) (rest : List UInt64) : Stats :=
  let xs := first :: rest
  ⟨first, arith.mean xs, arith.middle xs, rest.getLastD first, arith.sqrt (arith.variance xs)⟩

/-- The statistics of some numbers in an arithmetic, if there are any numbers. -/
def Stats.computed? (arith : Arithmetic) (samples : List UInt64) : Option Stats :=
  match sorted samples with
  | [] => none
  | first :: rest => some (.ofSorted arith first rest)

/-- The statistics of some numbers, if there are any. -/
def Stats.ofSamples? (samples : List UInt64) : Option Stats :=
  computed? .floats samples

end TreeSmith.Bench
