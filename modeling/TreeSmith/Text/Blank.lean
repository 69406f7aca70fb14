import TreeSmith.Text.Range

/-!
# White space

The characters with the Unicode property White_Space, and cutting them off both
ends of a text.

## Main definitions

* `blankRanges`, `isBlank` — the class itself, which is wider than that of ASCII.
* `trimStart`, `trimEnd`, `trim` — a text without the blanks at its ends.
-/

namespace TreeSmith.Text

/-- White space in the sense of Unicode: the five controls from tab to carriage
return, the next-line control, and every space and line separator. -/
def blankRanges : CodeRange.Table :=
  [(0x9, 0xD), (0x20, 0x20), (0x85, 0x85), (0xA0, 0xA0), (0x1680, 0x1680), (0x2000, 0x200A),
   (0x2028, 0x2029), (0x202F, 0x202F), (0x205F, 0x205F), (0x3000, 0x3000)]

/-- The character is white space. -/
def isBlank (c : Char) : Bool :=
  blankRanges.has c

/-- The characters from the first one that is not blank. -/
def trimStart (cs : List Char) : List Char :=
  cs.dropWhile isBlank

/-- The characters up to the last one that is not blank. -/
def trimEnd (cs : List Char) : List Char :=
  (cs.reverse.dropWhile isBlank).reverse

/-- The characters between the blanks at both ends. -/
def trim (cs : List Char) : List Char :=
  trimEnd (trimStart cs)

/-- A text without the blanks at its ends. -/
def trimmed (s : String) : String :=
  String.ofList (trim s.toList)

end TreeSmith.Text
