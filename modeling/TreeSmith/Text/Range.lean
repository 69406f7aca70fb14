/-!
# Ranges of code points

A character class of Unicode is a list of closed ranges of code points.  The
tables of this folder are such lists, in increasing order.

## Main definitions

* `CodeRange`, `CodeRange.Table` — a closed range, and a list of them.
* `CodeRange.Table.has` — membership of a character in a table.
* `CodeRange.Table.normal` — the same class in increasing ranges that do not touch.
* `CodeRange.Table.complement`, `CodeRange.Table.inter` — operations on classes.
-/

namespace TreeSmith.Text

/-- A closed range of code points, from the first to the last. -/
abbrev CodeRange := Nat × Nat

/-- A class of characters, as ranges in increasing order. -/
abbrev CodeRange.Table := List CodeRange

/-- The character lies in one of the ranges. -/
def CodeRange.Table.has (table : CodeRange.Table) (c : Char) : Bool :=
  table.any fun range => decide (range.1 ≤ c.toNat) && decide (c.toNat ≤ range.2)

/-- The last code point. -/
def lastCode : Nat := 0x10FFFF

/-- A range and the ranges after it in increasing order, with those that touch or
overlap put together. -/
def CodeRange.joinTouching (r : CodeRange) : List CodeRange → List CodeRange
  | [] => [r]
  | q :: rest =>
    if q.1 ≤ r.2 + 1 then joinTouching (r.1, max r.2 q.2) rest else r :: joinTouching q rest

/-- The class in increasing ranges that do not touch. -/
def CodeRange.Table.normal (table : CodeRange.Table) : CodeRange.Table :=
  match table.mergeSort fun a b => a.1 ≤ b.1 with
  | [] => []
  | r :: rest => CodeRange.joinTouching r rest

/-- The code points from `next` on that lie in none of some increasing ranges. -/
def CodeRange.gaps (next : Nat) : List CodeRange → List CodeRange
  | [] => if next ≤ lastCode then [(next, lastCode)] else []
  | r :: rest => if next < r.1 then (next, r.1 - 1) :: gaps (r.2 + 1) rest else gaps (r.2 + 1) rest

/-- The class of all other code points. -/
def CodeRange.Table.complement (table : CodeRange.Table) : CodeRange.Table :=
  CodeRange.gaps 0 table.normal

/-- The code points in both classes. -/
def CodeRange.Table.inter (a b : CodeRange.Table) : CodeRange.Table :=
  CodeRange.Table.complement (a.complement ++ b.complement)

end TreeSmith.Text
