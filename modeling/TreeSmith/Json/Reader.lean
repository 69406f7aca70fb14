import TreeSmith.Json.Basic
import TreeSmith.Decimal.Reading
import TreeSmith.Text.Utf8

/-!
# Reading JSON

A strict reader of JSON text: one value with nothing but blanks around it.  Each
step takes the characters that are left and gives back what it read and what is
left then.

## Main definitions

* `Json.readString` — a string after its opening quote.
* `Json.readNumber` — a number.
* `Json.parse?` — a whole text.
-/

namespace TreeSmith.Json

open Text (hexValue?)

/-- The four blanks of JSON. -/
def isSpace (c : Char) : Bool :=
  c = ' ' || c = '\t' || c = '\n' || c = '\r'

/-- The characters from the next one that is not blank. -/
def skipSpace (cs : List Char) : List Char :=
  cs.dropWhile isSpace

/-! ### Strings -/

/-- A part of a string: a character, or half of a surrogate pair. -/
inductive StringPart
  /-- A character. -/
  | char (c : Char)
  /-- Half of a surrogate pair, by its code. -/
  | half (code : Nat)

/-- The part that four hexadecimal digits stand for. -/
def partOfHex? (a b c d : Char) : Option StringPart := do
  let n := 4096 * (← hexValue? a) + 256 * (← hexValue? b) + 16 * (← hexValue? c) + (← hexValue? d)
  return if 0xD800 ≤ n && n ≤ 0xDFFF then .half n else .char (Char.ofNat n)

/-- The character that a one-letter escape stands for. -/
def escaped? (c : Char) : Option Char :=
  if c = '"' || c = '\\' || c = '/' then some c
  else if c = 'b' then some (Char.ofNat 8)
  else if c = 'f' then some (Char.ofNat 12)
  else if c = 'n' then some '\n'
  else if c = 'r' then some '\r'
  else if c = 't' then some '\t'
  else none

/-- The parts of a string up to its closing quote. -/
def readParts : List Char → Option (List StringPart × List Char)
  | [] => none
  | '"' :: cs => some ([], cs)
  | '\\' :: 'u' :: a :: b :: c :: d :: cs => do
    let part ← partOfHex? a b c d
    let (parts, rest) ← readParts cs
    return (part :: parts, rest)
  | '\\' :: e :: cs => do
    let c ← escaped? e
    let (parts, rest) ← readParts cs
    return (.char c :: parts, rest)
  | c :: cs =>
    if c.toNat < 0x20 then none
    else do
      let (parts, rest) ← readParts cs
      return (.char c :: parts, rest)

/-- The characters of the parts, if each half of a pair has its other half. -/
def joinParts? : List StringPart → Option (List Char)
  | [] => some []
  | .char c :: parts => (joinParts? parts).map (c :: ·)
  | .half high :: .half low :: parts =>
    if high < 0xDC00 && 0xDC00 ≤ low then
      (joinParts? parts).map
        (Char.ofNat (0x10000 + 0x400 * (high - 0xD800) + (low - 0xDC00)) :: ·)
    else none
  | .half _ :: _ => none

/-- A string after its opening quote; `none` for one without a text. -/
def readString (cs : List Char) : Option (Option String × List Char) := do
  let (parts, rest) ← readParts cs
  return ((joinParts? parts).map String.ofList, rest)

/-! ### Numbers -/

/-- The digits at the front, and the rest. -/
def spanDigits (cs : List Char) : List Char × List Char :=
  (cs.takeWhile Char.isDigit, cs.dropWhile Char.isDigit)

/-- The digits after a point, if there is one. -/
def readFraction : List Char → Option (List Char × List Char)
  | '.' :: cs =>
    let (digits, rest) := spanDigits cs
    if digits = [] then none else some (digits, rest)
  | cs => some ([], cs)

/-- The digits of an exponent with their sign. -/
def readSignedDigits (cs : List Char) : Option (Int × List Char) :=
  let (negative, unsigned) :=
    match cs with
    | '-' :: more => (true, more)
    | '+' :: more => (false, more)
    | _ => (false, cs)
  let (digits, rest) := spanDigits unsigned
  if digits = [] then none
  else some (if negative then -(digitsValue digits : Int) else digitsValue digits, rest)

/-- The exponent of a number, zero if it has none. -/
def readExponent : List Char → Option (Int × List Char)
  | c :: cs => if c = 'e' || c = 'E' then readSignedDigits cs else some (0, c :: cs)
  | [] => some (0, [])

/-- A number: no plus sign, no zero in front of other digits, and digits on both
sides of a point. -/
def readNumber (cs : List Char) : Option (Json × List Char) := do
  let (negative, unsigned) :=
    match cs with
    | '-' :: more => (true, more)
    | _ => (false, cs)
  let (whole, afterWhole) := spanDigits unsigned
  if whole = [] || (whole.head? = some '0' && 1 < whole.length) then none
  else
    let (fraction, afterFraction) ← readFraction afterWhole
    let (exponent, rest) ← readExponent afterFraction
    let m : Int := digitsValue (whole ++ fraction)
    return (.number (if negative then -m else m) (exponent - fraction.length), rest)

/-! ### Values -/

/-- The rest after a given word. -/
def dropWord? (word : List Char) (cs : List Char) : Option (List Char) :=
  if word.isPrefixOf cs then some (cs.drop word.length) else none

mutual

/-- A value at the first character.  Each call spends one unit of fuel. -/
def readValue : Nat → List Char → Option (Json × List Char)
  | 0, _ => none
  | fuel + 1, cs =>
    match cs with
    | '"' :: more => do
      let (text, rest) ← readString more
      return (text.elim .textless .string, rest)
    | '[' :: more =>
      match skipSpace more with
      | ']' :: rest => some (.array [], rest)
      | items => do
        let (js, rest) ← readItems fuel items
        return (.array js, rest)
    | '{' :: more =>
      match skipSpace more with
      | '}' :: rest => some (.object [], rest)
      | members => do
        let (ms, rest) ← readMembers fuel members
        return (.object ms, rest)
    | 'n' :: _ => (dropWord? "null".toList cs).map fun rest => (.null, rest)
    | 't' :: _ => (dropWord? "true".toList cs).map fun rest => (.bool true, rest)
    | 'f' :: _ => (dropWord? "false".toList cs).map fun rest => (.bool false, rest)
    | _ => readNumber cs

/-- The items of a list up to its closing bracket, at least one. -/
def readItems : Nat → List Char → Option (List Json × List Char)
  | 0, _ => none
  | fuel + 1, cs => do
    let (j, rest) ← readValue fuel (skipSpace cs)
    match skipSpace rest with
    | ',' :: more =>
      let (js, rest) ← readItems fuel more
      return (j :: js, rest)
    | ']' :: rest => return ([j], rest)
    | _ => none

/-- The members of an object up to its closing brace, at least one. -/
def readMembers : Nat → List Char → Option ((List (Option String × Json)) × List Char)
  | 0, _ => none
  | fuel + 1, cs =>
    match skipSpace cs with
    | '"' :: more => do
      let (key, afterKey) ← readString more
      match skipSpace afterKey with
      | ':' :: afterColon =>
        let (j, rest) ← readValue fuel (skipSpace afterColon)
        match skipSpace rest with
        | ',' :: more =>
          let (ms, rest) ← readMembers fuel more
          return ((key, j) :: ms, rest)
        | '}' :: rest => return ([(key, j)], rest)
        | _ => none
      | _ => none
    | _ => none

end

/-- The value of a text that holds one value and blanks around it.  Every call of
the reader but one per item takes a character, so twice the length is fuel
enough. -/
def parse? (s : String) : Option Json :=
  let cs := s.toList
  match readValue (2 * cs.length + 2) (skipSpace cs) with
  | some (j, rest) => if skipSpace rest = [] then some j else none
  | none => none

end TreeSmith.Json
