import TreeSmith.Text.Blank
import TreeSmith.Text.Folding
import TreeSmith.Text.Word

/-!
# Sets of characters

The characters that one place of a pattern takes.

## Main definitions

* `CharSet`, `CharSet.has` — the sets, with or without regard to letter case.
* `CharSet.ranges` — the same sets as ranges of code points.
* `CharSet.ofClassName?` — the sets with names of their own.
-/

namespace TreeSmith.Pattern

/-- A set of characters. -/
inductive CharSet
  /-- No character. -/
  | none
  /-- The characters from one to another. -/
  | range (first last : Char)
  /-- The decimal digits of all scripts. -/
  | digit
  /-- The characters of words in all scripts. -/
  | word
  /-- White space. -/
  | blank
  /-- All other characters. -/
  | complement (a : CharSet)
  /-- The characters in either set. -/
  | union (a b : CharSet)
  /-- The characters in both sets. -/
  | inter (a b : CharSet)
  /-- The characters in the first set and not in the second. -/
  | diff (a b : CharSet)
  /-- The characters in exactly one of the sets. -/
  | differ (a b : CharSet)
  deriving DecidableEq, Repr

/-- The set of one character. -/
def CharSet.single (c : Char) : CharSet := .range c c

/-- The set has the character; `fold` ignores letter case in ranges. -/
def CharSet.has (fold : Bool) (c : Char) : CharSet → Bool
  | .none => false
  | .range first last =>
    (if fold then Text.foldVariants c else [c]).any fun d => first ≤ d && d ≤ last
  | .digit => Text.isDecimal c
  | .word => Text.isWord c
  | .blank => Text.isBlank c
  | .complement a => !a.has fold c
  | .union a b => a.has fold c || b.has fold c
  | .inter a b => a.has fold c && b.has fold c
  | .diff a b => a.has fold c && !b.has fold c
  | .differ a b => a.has fold c != b.has fold c

/-- The code points of the set; `fold` ignores letter case in ranges. -/
def CharSet.ranges (fold : Bool) : CharSet → Text.CodeRange.Table
  | .none => []
  | .range first last =>
    let range := [(first.toNat, last.toNat)]
    if fold then Text.foldClosure range else range
  | .digit => Text.digitRanges
  | .word => Text.wordRanges
  | .blank => Text.blankRanges
  | .complement a => (a.ranges fold).complement
  | .union a b => a.ranges fold ++ b.ranges fold
  | .inter a b => (a.ranges fold).inter (b.ranges fold)
  | .diff a b => (a.ranges fold).inter (b.ranges fold).complement
  | .differ a b =>
    let x := a.ranges fold
    let y := b.ranges fold
    Text.CodeRange.Table.inter (x ++ y) (x.inter y).complement

/-- The union of some ranges. -/
def CharSet.ofRanges (ranges : List (Char × Char)) : CharSet :=
  ranges.foldl (fun s r => .union s (.range r.1 r.2)) .none

/-- The sets with names of their own, which hold only ASCII characters. -/
def CharSet.ofClassName? (name : String) : Option CharSet :=
  match name with
  | "alnum" => some (.ofRanges [('0', '9'), ('A', 'Z'), ('a', 'z')])
  | "alpha" => some (.ofRanges [('A', 'Z'), ('a', 'z')])
  | "ascii" => some (.ofRanges [('\x00', '\x7f')])
  | "blank" => some (.ofRanges [('\t', '\t'), (' ', ' ')])
  | "cntrl" => some (.ofRanges [('\x00', '\x1f'), ('\x7f', '\x7f')])
  | "digit" => some (.ofRanges [('0', '9')])
  | "graph" => some (.ofRanges [('!', '~')])
  | "lower" => some (.ofRanges [('a', 'z')])
  | "print" => some (.ofRanges [(' ', '~')])
  | "punct" => some (.ofRanges [('!', '/'), (':', '@'), ('[', '\x60'), ('\x7b', '~')])
  | "space" => some (.ofRanges [('\t', '\r'), (' ', ' ')])
  | "upper" => some (.ofRanges [('A', 'Z')])
  | "word" => some (.ofRanges [('0', '9'), ('A', 'Z'), ('a', 'z'), ('_', '_')])
  | "xdigit" => some (.ofRanges [('0', '9'), ('A', 'F'), ('a', 'f')])
  | _ => none

end TreeSmith.Pattern
