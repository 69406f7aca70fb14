import TreeSmith.Text.Range

/-!
# Code points as ranges of bytes

A range of code points is encoded by some rows of byte ranges, each of which stands
for all encodings with one byte from each of its ranges.

## Main definitions

* `encodeBytes` — the bytes of a code point.
* `ByteRow` — a range for each byte.
* `byteRows` — the rows of a class, in increasing order.
* `rowGroups` — rows by their first range.
-/

namespace TreeSmith.Text

/-- The bytes of a code point. -/
def encodeBytes (n : Nat) : List Nat :=
  if n < 0x80 then [n]
  else if n < 0x800 then [0xC0 + n / 0x40, 0x80 + n % 0x40]
  else if n < 0x10000 then [0xE0 + n / 0x1000, 0x80 + n / 0x40 % 0x40, 0x80 + n % 0x40]
  else
    [0xF0 + n / 0x40000, 0x80 + n / 0x1000 % 0x40, 0x80 + n / 0x40 % 0x40, 0x80 + n % 0x40]

/-- A range for each byte of an encoding. -/
abbrev ByteRow := List CodeRange

/-- The last code points whose encodings have one, two and three bytes. -/
def lengthEnds : List Nat := [0x7F, 0x7FF, 0xFFFF]

/-- Where a range has to be split so that its last bytes, `size` code points of them,
run over all values or belong to one row. -/
def alignedSplit? (first last size : Nat) : Option Nat :=
  if first / size = last / size then none
  else if first % size ≠ 0 then some (first / size * size + size - 1)
  else if last % size ≠ size - 1 then some (last / size * size - 1)
  else none

/-- The last code point of the first part of a range that is not encoded by one row. -/
def splitPoint? (first last : Nat) : Option Nat :=
  match lengthEnds.find? fun n => first ≤ n && n < last with
  | some n => some n
  | none =>
    if last ≤ 0x7F then none
    else [0x40, 0x1000, 0x40000].findSome? (alignedSplit? first last)

/-- The parts of a range that are each encoded by one row. -/
def rowParts : Nat → Nat → Nat → List CodeRange
  | 0, _, _ => []
  | fuel + 1, first, last =>
    match splitPoint? first last with
    | some n => rowParts fuel first n ++ rowParts fuel (n + 1) last
    | none => [(first, last)]

/-- The code points that stand for no character. -/
def halfUnits : CodeRange := (0xD800, 0xDFFF)

/-- The rows of a class, in increasing order.  No range is split more than a few times
for each of its bytes. -/
def byteRows (table : CodeRange.Table) : List ByteRow :=
  let all := CodeRange.Table.inter table (CodeRange.Table.complement [halfUnits])
  (all.flatMap fun r => rowParts 32 r.1 r.2).map fun r =>
    (encodeBytes r.1).zip (encodeBytes r.2)

/-- Rows by their first range: that range, and what follows it. -/
def rowGroups (rows : List ByteRow) : List (CodeRange × List ByteRow) :=
  rows.foldr (fun row groups =>
    match row, groups with
    | [], groups => groups
    | r :: rest, (q, rests) :: more =>
      if r = q then (q, rest :: rests) :: more else (r, [rest]) :: (q, rests) :: more
    | r :: rest, [] => [(r, [rest])]) []

end TreeSmith.Text
