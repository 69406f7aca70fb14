import TreeSmith.Text.Blank

/-!
# Lines

Three ways to cut a text into lines: at every line feed, with the empty last
piece left out, and with the terminators kept.

## Main definitions

* `splitOn` — the pieces between the occurrences of one character.
* `lines` — lines ended by a line feed or a carriage return and a line feed.
* `significantLines` — the trimmed lines that are not blank.
* `terminatedLines` — lines that keep their terminator; they join to the text.
* `padEnd` — a text filled up to a width.
-/

namespace TreeSmith.Text

/-- The pieces between the occurrences of `sep`; one more piece than there are
occurrences, so never none. -/
def splitOn (sep : Char) : List Char → List (List Char)
  | [] => [[]]
  | c :: cs =>
    match splitOn sep cs with
    | [] => [[]]
    | piece :: pieces => if c = sep then [] :: piece :: pieces else (c :: piece) :: pieces

/-- A text split at every occurrence of one character. -/
def split (sep : Char) (s : String) : List String :=
  (splitOn sep s.toList).map String.ofList

/-- A line without one carriage return at its end. -/
def dropReturn (line : List Char) : List Char :=
  if line.getLast? = some '\r' then line.dropLast else line

/-- Pieces between line feeds as lines: every piece but the last was ended by a
line feed, and an empty last piece is no line. -/
def endedLines : List (List Char) → List (List Char)
  | [] => []
  | [last] => if last = [] then [] else [last]
  | line :: next :: more => dropReturn line :: endedLines (next :: more)

/-- The lines of a text, ended by a line feed or by a carriage return and a line
feed.  A last line needs no terminator, and a carriage return alone ends none. -/
def lines (cs : List Char) : List (List Char) :=
  endedLines (splitOn '\n' cs)

/-- The lines that say something: cut at line feeds, trimmed, blank ones left
out. -/
def significantLines (s : String) : List String :=
  ((splitOn '\n' s.toList).map trim).filterMap fun line =>
    if line = [] then none else some (String.ofList line)

/-- Lines with their terminators, which are a line feed, a carriage return and a
line feed, or a lone carriage return.  The lines joined give the text back. -/
def terminatedLines : List Char → List (List Char)
  | [] => []
  | '\n' :: cs => ['\n'] :: terminatedLines cs
  | '\r' :: '\n' :: cs => ['\r', '\n'] :: terminatedLines cs
  | '\r' :: cs => ['\r'] :: terminatedLines cs
  | c :: cs =>
    match terminatedLines cs with
    | [] => [[c]]
    | line :: more => (c :: line) :: more

/-- A text filled up with `fill` to at least `width` characters. -/
def padEnd (width : Nat) (fill : Char) (s : String) : String :=
  s ++ String.ofList (List.replicate (width - s.length) fill)

end TreeSmith.Text
