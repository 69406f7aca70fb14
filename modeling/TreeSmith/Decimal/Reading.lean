import TreeSmith.Decimal.Shortest

/-!
# Reading numbers

Integers of 64 bits and decimals with a point and an exponent, as they are written
in settings.

## Main definitions

* `digitsValue` — the value of decimal digits.
* `readInt64?` — an integer with an optional sign.
* `nearestFloat` — the number nearest to a decimal.
* `readDecimal?` — digits with a point and an exponent.
* `readFloat?` — a decimal, an infinity or no number, with an optional sign.
-/

namespace TreeSmith

/-- The value of a row of decimal digits. -/
def digitsValue (cs : List Char) : Nat :=
  cs.foldl (fun n c => 10 * n + (c.toNat - '0'.toNat)) 0

/-- The sign in front of a number and what follows it. -/
def splitSign : List Char → Bool × List Char
  | '-' :: cs => (true, cs)
  | '+' :: cs => (false, cs)
  | cs => (false, cs)

/-- The integer, if 64 bits hold it. -/
def int64? (n : Int) : Option Int :=
  if -9223372036854775808 ≤ n && n ≤ 9223372036854775807 then some n else none

/-- An integer of 64 bits: an optional sign and at least one digit. -/
def readInt64? (cs : List Char) : Option Int :=
  let (negative, digits) := splitSign cs
  if digits = [] || !digits.all Char.isDigit then none
  else int64? (if negative then -(digitsValue digits : Int) else digitsValue digits)

/-- The number nearest to `digits · 10 ^ exponent`.  Decimals beyond every number
are infinite, and those below every number are zero. -/
def nearestFloat (digits : Nat) (exponent : Int) : Float :=
  let power := exponent + (Nat.toDigits 10 digits).length
  if digits = 0 || power < -400 then 0.0
  else if 400 < power then 1.0 / 0.0
  else Float.ofScientific digits (decide (exponent < 0)) exponent.natAbs

/-- The exponent that ends a decimal: nothing, or a mark, an optional sign and
digits. -/
def readExponent? : List Char → Option Int
  | [] => some 0
  | c :: cs =>
    if c = 'e' || c = 'E' then
      let (negative, digits) := splitSign cs
      if digits = [] || !digits.all Char.isDigit then none
      else some (if negative then -(digitsValue digits : Int) else digitsValue digits)
    else none

/-- A decimal without a sign: digits with at most one point among them, at least
one digit, and an optional exponent. -/
def readDecimal? (cs : List Char) : Option Decimal :=
  let whole := cs.takeWhile Char.isDigit
  let afterWhole := cs.dropWhile Char.isDigit
  let (fraction, rest) :=
    match afterWhole with
    | '.' :: more => (more.takeWhile Char.isDigit, more.dropWhile Char.isDigit)
    | _ => ([], afterWhole)
  if whole = [] && fraction = [] then none
  else
    (readExponent? rest).map fun exponent =>
      ⟨digitsValue (whole ++ fraction), exponent - fraction.length⟩

/-- The number nearest to a decimal without a sign. -/
def readMagnitude? (cs : List Char) : Option Float :=
  (readDecimal? cs).map fun d => nearestFloat d.digits d.exponent

/-- A number: an optional sign, then a decimal or, in any case, the name of an
infinity or of no number. -/
def readFloat? (cs : List Char) : Option Float :=
  let (negative, rest) := splitSign cs
  let name := (String.ofList rest).toLower
  let magnitude : Option Float :=
    if name = "inf" || name = "infinity" then some (1.0 / 0.0)
    else if name = "nan" then some (0.0 / 0.0)
    else readMagnitude? rest
  magnitude.map fun x => if negative then -x else x

end TreeSmith
