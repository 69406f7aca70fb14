import TreeSmith.Decimal.Layout
import TreeSmith.Decimal.Reading
import TreeSmith.Text.Utf8

/-!
# Numbers and dates in TOML

Integers in four bases, decimals, and dates and times, which are kept as their text
in one canonical form.

## Main definitions

* `Toml.Scalar` — numbers, truth values and dates.
* `Toml.readNumber` — an integer or a decimal.
* `Toml.readMoment` — a date, a time or both.
-/

namespace TreeSmith.Toml

/-- A number, a truth value or a date. -/
inductive Scalar
  /-- An integer. -/
  | integer (n : Int)
  /-- A decimal, by the bits of its binary representation. -/
  | float (bits : UInt64)
  /-- A truth value. -/
  | bool (b : Bool)
  /-- A date, a time or both, in canonical form. -/
  | moment (text : String)
  deriving DecidableEq, Repr

/-- A scalar as plain text. -/
def Scalar.text : Scalar → String
  | .integer n => toString n
  | .float bits => NumberStyle.display.text (.ofBits bits)
  | .bool b => if b then "true" else "false"
  | .moment s => s

/-! ### Numbers -/

/-- Digits that go on; an underscore may stand between two of them. -/
def moreDigits (isDigit : Char → Bool) : List Char → Option (List Char × List Char)
  | [] => some ([], [])
  | ['_'] => none
  | '_' :: c :: cs =>
    if isDigit c then (moreDigits isDigit cs).map fun (ds, rest) => (c :: ds, rest) else none
  | c :: cs =>
    if isDigit c then (moreDigits isDigit cs).map fun (ds, rest) => (c :: ds, rest)
    else some ([], c :: cs)

/-- At least one digit. -/
def readDigits (isDigit : Char → Bool) : List Char → Option (List Char × List Char)
  | [] => none
  | c :: cs =>
    if isDigit c then (moreDigits isDigit cs).map fun (ds, rest) => (c :: ds, rest) else none

/-- The digits of a whole number: a zero stands alone. -/
def readWhole : List Char → Option (List Char × List Char)
  | '0' :: cs => some (['0'], cs)
  | cs => readDigits Char.isDigit cs

/-- The integer of a base from its digits, if 64 bits hold it. -/
def readBase (base : Nat) (cs : List Char) : Option (Scalar × List Char) := do
  let value (c : Char) : Nat := (Text.hexValue? c.toLower).getD base
  let (digits, rest) ← readDigits (fun c => decide (value c < base)) cs
  let n ← int64? (digits.foldl (fun n c => n * base + value c) 0 : Nat)
  return (.integer n, rest)

/-- The exponent of a decimal, if there is one. -/
def readExponent : List Char → Option (Option (Int × List Char))
  | c :: cs =>
    if c = 'e' || c = 'E' then
      let (negative, cs) := splitSign cs
      (readDigits Char.isDigit cs).map fun (ds, rest) =>
        some (if negative then -(digitsValue ds : Int) else digitsValue ds, rest)
    else some none
  | [] => some none

/-- A decimal from its digits; one that is too great is none. -/
def decimal? (negative : Bool) (digits : List Char) (exponent : Int) : Option Scalar :=
  let x := nearestFloat (digitsValue digits) exponent
  if negative then some (.float (-x).toBits) else if x.isInf then none else some (.float x.toBits)

/-- An infinity or no number. -/
def readSpecial (negative : Bool) : List Char → Option (Scalar × List Char)
  | 'i' :: 'n' :: 'f' :: rest =>
    some (.float (if negative then -(1.0 / 0.0) else (1.0 / 0.0) : Float).toBits, rest)
  | 'n' :: 'a' :: 'n' :: rest =>
    some (.float (if negative then -(0.0 / 0.0) else (0.0 / 0.0) : Float).toBits, rest)
  | _ => none

/-- A number in decimal digits, after its sign. -/
def readUnsigned (negative : Bool) (cs : List Char) : Option (Scalar × List Char) := do
  let (whole, rest) ← readWhole cs
  match rest with
  | '.' :: more => do
    let (fraction, rest) ← readDigits Char.isDigit more
    let found ← readExponent rest
    let (exponent, rest) := found.getD (0, rest)
    let x ← decimal? negative (whole ++ fraction) (exponent - fraction.length)
    return (x, rest)
  | _ => do
    match ← readExponent rest with
    | some (exponent, rest) => do
      let x ← decimal? negative whole exponent
      return (x, rest)
    | none => do
      let n ← int64? (if negative then -(digitsValue whole : Int) else digitsValue whole)
      return (.integer n, rest)

/-- A number. -/
def readNumber (cs : List Char) : Option (Scalar × List Char) :=
  match cs with
  | '0' :: 'x' :: rest => readBase 16 rest
  | '0' :: 'o' :: rest => readBase 8 rest
  | '0' :: 'b' :: rest => readBase 2 rest
  | _ =>
    let (negative, rest) := splitSign cs
    (readSpecial negative rest).or (readUnsigned negative rest)

/-! ### Dates and times -/

/-- So many digits with a value between bounds. -/
def readField (count low high : Nat) (cs : List Char) : Option (Nat × List Char) :=
  let digits := cs.take count
  let n := digitsValue digits
  if digits.length = count && digits.all Char.isDigit && low ≤ n && n ≤ high then
    some (n, cs.drop count)
  else none

/-- One character that has to stand here. -/
def skipChar (c : Char) : List Char → Option (List Char)
  | d :: cs => if c = d then some cs else none
  | [] => none

/-- The days of a month. -/
def daysIn (year month : Nat) : Nat :=
  if month = 2 then
    if year % 4 = 0 && (year % 100 ≠ 0 || year % 400 = 0) then 29 else 28
  else if month = 4 || month = 6 || month = 9 || month = 11 then 30
  else 31

/-- A number with zeros in front up to a width. -/
def zeroPadded (width n : Nat) : String :=
  let digits := toString n
  String.ofList (List.replicate (width - digits.toList.length) '0') ++ digits

/-- A date. -/
def readDate (cs : List Char) : Option (String × List Char) := do
  let (year, rest) ← readField 4 0 9999 cs
  let rest ← skipChar '-' rest
  let (month, rest) ← readField 2 1 12 rest
  let rest ← skipChar '-' rest
  let (day, rest) ← readField 2 1 31 rest
  if daysIn year month < day then none
  return (zeroPadded 4 year ++ "-" ++ zeroPadded 2 month ++ "-" ++ zeroPadded 2 day, rest)

/-- The fraction of a second: at most nine digits count, without zeros at the end. -/
def readFraction : List Char → String × List Char
  | '.' :: cs =>
    let digits := cs.takeWhile Char.isDigit
    if digits.isEmpty then ("", '.' :: cs)
    else
      let kept := ((digits.take 9).reverse.dropWhile (· == '0')).reverse
      (if kept.isEmpty then "" else "." ++ String.ofList kept, cs.dropWhile Char.isDigit)
  | cs => ("", cs)

/-- A time of day. -/
def readTime (cs : List Char) : Option (String × List Char) := do
  let (hour, rest) ← readField 2 0 23 cs
  let rest ← skipChar ':' rest
  let (minute, rest) ← readField 2 0 59 rest
  let rest ← skipChar ':' rest
  let (second, rest) ← readField 2 0 60 rest
  let (fraction, rest) := readFraction rest
  return (zeroPadded 2 hour ++ ":" ++ zeroPadded 2 minute ++ ":" ++ zeroPadded 2 second ++ fraction,
    rest)

/-- The distance of a time from universal time. -/
def readOffset (cs : List Char) : Option (String × List Char) :=
  match cs with
  | [] => none
  | c :: rest =>
    if c = 'Z' || c = 'z' then some ("Z", rest)
    else if c = '+' || c = '-' then do
      let (hours, rest) ← readField 2 0 23 rest
      let rest ← skipChar ':' rest
      let (minutes, rest) ← readField 2 0 59 rest
      let sign := if c = '-' && 0 < hours + minutes then "-" else "+"
      return (sign ++ zeroPadded 2 hours ++ ":" ++ zeroPadded 2 minutes, rest)
    else none

/-- The time that follows a date, with its offset. -/
def readTimeAfterDate : List Char → Option (String × List Char)
  | c :: cs =>
    if c = 'T' || c = 't' || c = ' ' then do
      let (time, rest) ← readTime cs
      let (offset, rest) := (readOffset rest).getD ("", rest)
      return ("T" ++ time ++ offset, rest)
    else none
  | [] => none

/-- A date, a time or both. -/
def readMoment (cs : List Char) : Option (Scalar × List Char) :=
  match readDate cs with
  | some (date, rest) =>
    let (time, rest) := (readTimeAfterDate rest).getD ("", rest)
    some (.moment (date ++ time), rest)
  | none => (readTime cs).map fun (time, rest) => (.moment time, rest)

/-- A scalar, by its first character. -/
def readScalar (cs : List Char) : Option (Scalar × List Char) :=
  match cs with
  | 't' :: 'r' :: 'u' :: 'e' :: rest => some (.bool true, rest)
  | 'f' :: 'a' :: 'l' :: 's' :: 'e' :: rest => some (.bool false, rest)
  | _ => (readMoment cs).or (readNumber cs)

end TreeSmith.Toml
