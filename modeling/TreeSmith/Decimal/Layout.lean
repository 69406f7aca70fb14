import TreeSmith.Decimal.Shortest

/-!
# Numbers as text

The shortest decimal of a number is laid out by a style, which says from where on
an exponent is written and whether a whole number keeps a fraction.  A second
form has a fixed count of decimals.

## Main definitions

* `NumberStyle`, `NumberStyle.display`, `NumberStyle.debug` — the two styles.
* `NumberStyle.text` — a number in a style.
* `fixedText` — a number with a fixed count of decimals.
-/

namespace TreeSmith

/-- How a number is laid out. -/
structure NumberStyle where
  /-- Written after a whole number. -/
  wholeEnd : String
  /-- The powers of ten of the first digit that are written without an exponent;
  `none` when every number is. -/
  positional : Option (Int × Int)
  deriving Repr

/-- Numbers as a program shows them: never an exponent, and no fraction on a
whole number. -/
def NumberStyle.display : NumberStyle := ⟨"", none⟩

/-- Numbers as they are inspected: a whole number ends in `.0`, and an exponent is
written from `10 ^ 16` on and below `10 ^ -4`. -/
def NumberStyle.debug : NumberStyle := ⟨".0", some (-4, 15)⟩

/-- The digits `ds`, the last of them worth `10 ^ e`, written with a point only. -/
def positionalText (wholeEnd : String) (ds : List Char) (e : Int) : String :=
  let count := ds.length
  let below := (-e).toNat
  if 0 ≤ e then String.ofList (ds ++ List.replicate e.toNat '0') ++ wholeEnd
  else if below < count then
    String.ofList (ds.take (count - below) ++ '.' :: ds.drop (count - below))
  else String.ofList ('0' :: '.' :: List.replicate (below - count) '0' ++ ds)

/-- The digits `ds` with a point after the first and the power of ten of the
first. -/
def exponentText (ds : List Char) (power : Int) : String :=
  let digits :=
    match ds with
    | [] => []
    | [d] => [d]
    | d :: more => d :: '.' :: more
  String.ofList digits ++ "e" ++ toString power

/-- A positive decimal in a style. -/
def NumberStyle.decimalText (style : NumberStyle) (d : Decimal) : String :=
  let ds := Nat.toDigits 10 d.digits
  let power := d.exponent + ds.length - 1
  match style.positional with
  | none => positionalText style.wholeEnd ds d.exponent
  | some (least, greatest) =>
    if least ≤ power && power ≤ greatest then positionalText style.wholeEnd ds d.exponent
    else exponentText ds power

/-- A number in a style. -/
def NumberStyle.text (style : NumberStyle) : Binary64 → String
  | .nan => "NaN"
  | .infinite negative => if negative then "-inf" else "inf"
  | .finite negative m q =>
    let sign := if negative then "-" else ""
    if m = 0 then sign ++ "0" ++ style.wholeEnd
    else sign ++ style.decimalText (Rounding.shortest m q)

/-- The quotient of two numbers rounded to the nearest integer, a half to the even
neighbour. -/
def roundHalfEven (num den : Nat) : Nat :=
  let low := num / den
  let twice := 2 * (num % den)
  if twice < den then low
  else if den < twice then low + 1
  else if low % 2 = 0 then low else low + 1

/-- A number with `places` decimals, rounded to the nearest, a half to even. -/
def fixedText (places : Nat) : Binary64 → String
  | .nan => "NaN"
  | .infinite negative => if negative then "-inf" else "inf"
  | .finite negative m q =>
    let scaled := roundHalfEven (m * Nat.pow 2 q.toNat * Nat.pow 10 places) (Nat.pow 2 (-q).toNat)
    let ds := Nat.toDigits 10 scaled
    let padded := List.replicate (places + 1 - ds.length) '0' ++ ds
    let whole := padded.take (padded.length - places)
    let fraction := padded.drop (padded.length - places)
    let sign := if negative then "-" else ""
    sign ++ String.ofList whole ++ (if places = 0 then "" else "." ++ String.ofList fraction)

end TreeSmith
