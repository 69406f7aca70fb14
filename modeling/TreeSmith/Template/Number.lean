import TreeSmith.Decimal.Layout
import TreeSmith.Decimal.Reading

/-!
# Template numbers

Integers are of at most 128 bits: those that are written or counted have no sign,
and those that are computed have one.  An operation on two integers is exact or
fails, and one with a floating-point number is done in floating point.

## Main definitions

* `Number` — the numbers.
* `Number.text`, `Number.inspect` — a number on its own, and inside a list.
* `Number.operands?` — two numbers in the kind in which they are combined.
* `Number.same`, `Number.order` — equality and order.
* `Number.add` and the like — arithmetic.
-/

namespace TreeSmith.Template

/-- A number in a template. -/
inductive Number
  /-- An integer without a sign. -/
  | natural (n : Nat)
  /-- An integer with a sign. -/
  | integer (n : Int)
  /-- A floating-point number. -/
  | float (x : Float)

namespace Number

/-! ### Text -/

/-- A number on its own: without an exponent, and with a fraction unless it is an
integer. -/
def text : Number → String
  | .natural n => toString n
  | .integer n => toString n
  | .float x =>
    let s := NumberStyle.display.text (.ofBits x.toBits)
    if x.isNaN || x.isInf || s.toList.contains '.' then s else s ++ ".0"

/-- A number inside a list: with an exponent when it is very large or small. -/
def inspect : Number → String
  | .float x => NumberStyle.debug.text (.ofBits x.toBits)
  | a => a.text

/-! ### Conversion -/

/-- Two to the power of 63. -/
def int64End : Int := 9223372036854775808

/-- Two to the power of 64. -/
def word64End : Nat := 18446744073709551616

/-- Two to the power of 127. -/
def int128End : Int := 170141183460469231731687303715884105728

/-- Two to the power of 128. -/
def word128End : Nat := 340282366920938463463374607431768211456

/-- The result of an operation, unless it has more than 128 bits. -/
def signed? (n : Int) : Option Number :=
  if -int128End ≤ n && n < int128End then some (.integer n) else none

/-- The integer that a number is, if it has no fraction. -/
def wholeValue? (x : Float) : Option Int :=
  match Binary64.ofBits x.toBits with
  | .finite negative m q =>
    let sign : Int := if negative then -1 else 1
    if 0 ≤ q then some (sign * (m * Nat.pow 2 q.toNat : Nat))
    else
      let den := Nat.pow 2 (-q).toNat
      if m % den = 0 then some (sign * (m / den : Nat)) else none
  | _ => none

/-- The floating-point number nearest to an integer. -/
def nearest (n : Int) : Float :=
  let x := nearestFloat n.natAbs 0
  if n < 0 then -x else x

/-- The number as an integer with a sign. -/
def toInt? : Number → Option Int
  | .natural n => if (n : Int) < int128End then some n else none
  | .integer n => some n
  | .float _ => none

/-- The largest integer of the kind and size of an integer. -/
def largest : Number → Int
  | .natural n => if n < word64End then word64End - 1 else word128End - 1
  | .integer n => if -int64End ≤ n && n < int64End then int64End - 1 else int128End - 1
  | .float _ => 0

/-- The value of an integer. -/
def value : Number → Int
  | .natural n => n
  | .integer n => n
  | .float _ => 0

/-- The number in floating point. -/
def toFloat : Number → Float
  | .float x => x
  | a => nearest a.value

/-- The number in floating point, if that is the same number.  One that is rounded
beyond the largest of its kind counts as the largest. -/
def toFloat? (a : Number) : Option Float :=
  match a with
  | .float x => some x
  | a =>
    let x := nearest a.value
    match wholeValue? x with
    | some n => if n = a.value || (a.largest < n && a.value = a.largest) then some x else none
    | none => none

/-- The number as an index or a count: an integer, or a number of moderate size
without a fraction. -/
def index? : Number → Option Int
  | .float x =>
    match wholeValue? x with
    | some n =>
      if -int64End ≤ n && n < int64End then some n
      else if n = int64End then some (int64End - 1) else none
    | none => none
  | a => if -int64End ≤ a.value && a.value < int64End then some a.value else none

/-- The number as a count. -/
def count? (a : Number) : Option Nat :=
  match a with
  | .float _ => a.index?.bind fun n => if n < 0 then none else some n.toNat
  | a => if 0 ≤ a.value && a.value < word64End then some a.value.toNat else none

/-- Two numbers of one kind. -/
inductive Operands
  /-- Two integers. -/
  | integers (m n : Int)
  /-- Two floating-point numbers. -/
  | floats (x y : Float)

/-- A large integer without a sign, taken for one with a sign of the same bits. -/
def wrapped (n : Nat) : Int :=
  if (n : Int) < int128End then n else n - word128End

/-- Two numbers in the kind in which they are combined. -/
def operands? (toFloat? : Number → Option Float) (a b : Number) : Option Operands :=
  match a, b with
  | .float x, b => (toFloat? b).map (.floats x)
  | a, .float y => (toFloat? a).map (.floats · y)
  | .natural m, .natural n =>
    if word64End ≤ m && word64End ≤ n then some (.integers (wrapped m) (wrapped n))
    else
      match (natural m).toInt?, (natural n).toInt? with
      | some m, some n => some (.integers m n)
      | _, _ => none
  | a, b =>
    match a.toInt?, b.toInt? with
    | some m, some n => some (.integers m n)
    | _, _ => none

/-! ### Equality and order -/

/-- Equality; an integer that is no floating-point number equals none. -/
def same (a b : Number) : Bool :=
  match operands? toFloat? a b with
  | some (.integers m n) => m == n
  | some (.floats x y) => x == y
  | none => false

/-- The place of a floating-point number in the order of all, in which the negative
zero comes before zero. -/
def place (x : Float) : Int :=
  let bits : Int := x.toBits.toNat
  if bits < int64End then bits else int64End - bits - 1

/-- The order of two numbers. -/
def order (a b : Number) : Ordering :=
  match operands? toFloat? a b with
  | some (.integers m n) => compare m n
  | some (.floats x y) => compare (place x) (place y)
  | none => compare a.value b.value

/-- The number is zero. -/
def isZero : Number → Bool
  | .float x => x == 0.0
  | a => a.value == 0

/-! ### Arithmetic -/

/-- An operation on two numbers. -/
def combine (onIntegers : Int → Int → Option Int) (onFloats : Float → Float → Float)
    (a b : Number) : Option Number :=
  match operands? (fun c => some c.toFloat) a b with
  | some (.integers m n) => (onIntegers m n).bind signed?
  | some (.floats x y) => some (.float (onFloats x y))
  | none => none

/-- The part of a number before its point. -/
def truncate (x : Float) : Float := if x < 0.0 then x.ceil else x.floor

/-- The remainder of a division toward zero, which has the sign of the dividend. -/
def floatRemainder (x y : Float) : Float :=
  match Binary64.ofBits x.toBits, Binary64.ofBits y.toBits with
  | .finite negative m p, .finite _ n q =>
    if n = 0 then 0.0 / 0.0
    else
      let e := min p q
      let r := (m * Nat.pow 2 (p - e).toNat) % (n * Nat.pow 2 (q - e).toNat)
      let size := (Float.ofNat r).scaleB e
      if negative then -size else size
  | .finite _ _ _, .infinite _ => x
  | _, _ => 0.0 / 0.0

/-- The quotient of a division whose remainder is not negative. -/
def floatQuotient (x y : Float) : Float :=
  let q := truncate (x / y)
  if floatRemainder x y < 0.0 then (if 0.0 < y then q - 1.0 else q + 1.0) else q

/-- A power of an integer.  An exponent is not negative and has at most 32 bits, and
every base but `-1`, `0` and `1` leaves the integers of 128 bits at the power 128. -/
def intPower? (m n : Int) : Option Int :=
  if n < 0 || 4294967296 ≤ n then none
  else if m = 0 then some (if n = 0 then 1 else 0)
  else if m = 1 then some 1
  else if m = -1 then some (if n % 2 = 0 then 1 else -1)
  else if 128 ≤ n then none
  else some (Int.pow m n.toNat)

/-- The sum of two numbers. -/
def add (a b : Number) : Option Number :=
  combine (fun m n => some (m + n)) (· + ·) a b

/-- The difference of two numbers. -/
def subtract (a b : Number) : Option Number :=
  combine (fun m n => some (m - n)) (· - ·) a b

/-- The product of two numbers. -/
def multiply (a b : Number) : Option Number :=
  combine (fun m n => some (m * n)) (· * ·) a b

/-- The quotient of two numbers, always in floating point. -/
def divide (a b : Number) : Number :=
  .float (a.toFloat / b.toFloat)

/-- The whole quotient of two numbers, for which the remainder is not negative. -/
def floorDivide (a b : Number) : Option Number :=
  combine (fun m n => if n = 0 then none else some (m / n)) floatQuotient a b

/-- The remainder of two numbers: of integers it is not negative, and in floating
point it has the sign of the dividend. -/
def remainder (a b : Number) : Option Number :=
  combine (fun m n => if n = 0 then none else some (m % n)) floatRemainder a b

/-- A power of a number. -/
def power (a b : Number) : Option Number :=
  combine intPower? Float.pow a b

/-- The number with its sign changed.  The integer that has no negative of 128 bits
but for its sign stays as it is. -/
def negate : Number → Option Number
  | .float x => some (.float (-x))
  | .natural n =>
    if (n : Int) = int128End then some (.natural n)
    else (natural n).toInt?.bind fun n => signed? (-n)
  | .integer n => signed? (-n)

end Number

end TreeSmith.Template
