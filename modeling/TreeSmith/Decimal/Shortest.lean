/-!
# Shortest decimals of binary numbers

A finite number of the 64-bit binary format is `m · 2 ^ q`.  The reals that round
to it form an interval, and its shortest decimal is the point `d · 10 ^ e` of that
interval with the greatest `e`, hence with the fewest digits; of two such points
the nearer one is taken, and the upper one when both are equally near.  All
comparisons are made in exact integer arithmetic.

## Main definitions

* `Binary64`, `Binary64.ofBits` — the number that a word of 64 bits stands for.
* `Rounding` — the number and its interval as integers over one denominator.
* `Decimal`, `Rounding.shortest` — the shortest decimal.
-/

namespace TreeSmith

/-- What a word of the 64-bit binary format stands for. -/
inductive Binary64
  /-- Not a number. -/
  | nan
  /-- An infinity, `true` for the negative one. -/
  | infinite (negative : Bool)
  /-- The number `m · 2 ^ q` with a sign; zero has a sign too. -/
  | finite (negative : Bool) (m : Nat) (q : Int)
  deriving DecidableEq, Repr

/-- Sign, exponent and fraction of a word. -/
def Binary64.ofBits (bits : UInt64) : Binary64 :=
  let n := bits.toNat
  let negative := decide (Nat.pow 2 63 ≤ n)
  let exponent : Nat := n / Nat.pow 2 52 % Nat.pow 2 11
  let fraction : Nat := n % Nat.pow 2 52
  if exponent = 2047 then
    if fraction = 0 then .infinite negative else .nan
  else if exponent = 0 then .finite negative fraction (-1074)
  else .finite negative (Nat.pow 2 52 + fraction) ((exponent : Int) - 1075)

/-- The decimal `digits · 10 ^ exponent`. -/
structure Decimal where
  /-- The digits as one number. -/
  digits : Nat
  /-- The power of ten of the last digit. -/
  exponent : Int
  deriving DecidableEq, Repr

/-- A positive number `value / denominator` and the interval of the reals that round to
it, from `low / denominator` to `high / denominator`. -/
structure Rounding where
  /-- The lower end of the interval. -/
  low : Nat
  /-- The number itself. -/
  value : Nat
  /-- The upper end of the interval. -/
  high : Nat
  /-- The common denominator. -/
  denominator : Nat
  /-- The ends belong to the interval. -/
  closed : Bool

/-- The interval of `m · 2 ^ q`.  It reaches half way to the neighbours, and the
neighbour below a power of two is twice as near; the ends round to the number
exactly when `m` is even. -/
def Rounding.of (m : Nat) (q : Int) : Rounding :=
  let gapBelow := if m = Nat.pow 2 52 && q ≠ -1074 then 1 else 2
  let scale := q - 2
  let up := Nat.pow 2 scale.toNat
  ⟨(4 * m - gapBelow) * up, 4 * m * up, (4 * m + 2) * up, Nat.pow 2 (-scale).toNat, m % 2 == 0⟩

/-- The number lies on or between the ends of the interval, when both are scaled
alike. -/
def Rounding.admits (r : Rounding) (factor point : Nat) : Bool :=
  if r.closed then decide (r.low * factor ≤ point) && decide (point ≤ r.high * factor)
  else decide (r.low * factor < point) && decide (point < r.high * factor)

/-- The point of the interval on the grid of the multiples of `10 ^ e` that is
nearest to the number, if the grid has one. -/
def Rounding.onGrid? (r : Rounding) (e : Int) : Option Nat :=
  let factor := Nat.pow 10 (-e).toNat
  let unit := r.denominator * Nat.pow 10 e.toNat
  let below := r.value * factor / unit
  let above := below + 1
  let belowFits := r.admits factor (below * unit)
  let aboveFits := r.admits factor (above * unit)
  if belowFits && aboveFits then
    if r.value * factor - below * unit < above * unit - r.value * factor then some below
    else some above
  else if belowFits then some below
  else if aboveFits then some above
  else none

/-- The first of the grids `10 ^ e`, `10 ^ (e - 1)`, … with a point in the
interval. -/
def Rounding.search (r : Rounding) : Nat → Int → Decimal
  | 0, e => ⟨r.value * Nat.pow 10 (-e).toNat / (r.denominator * Nat.pow 10 e.toNat), e⟩
  | fuel + 1, e =>
    match r.onGrid? e with
    | some digits => ⟨digits, e⟩
    | none => r.search fuel (e - 1)

/-- The shortest decimal that rounds to the positive number `m · 2 ^ q`.  The
search starts above every number with 53 bits and this `q`, and seventeen digits
below the number always suffice. -/
def Rounding.shortest (m : Nat) (q : Int) : Decimal :=
  (Rounding.of m q).search 60 ((53 + q) * 30103 / 100000 + 2)

end TreeSmith
