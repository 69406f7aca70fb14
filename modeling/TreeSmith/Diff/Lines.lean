import TreeSmith.Diff.Compact
import TreeSmith.Diff.Shortest
import TreeSmith.Text.Lines

/-!
# Line diffs

The changes between two texts, line by line: between kept lines, the dropped lines
with a minus sign and then the added ones with a plus sign.

## Main definitions

* `lineScript` — the edit script between the lines of two texts.
* `changeText` — the changes of a script as text.
* `lineDiff` — the changes between two texts.
-/

namespace TreeSmith.Diff

/-- The edit script between the lines of two texts. -/
def lineScript (old new : String) : List (Edit (List Char)) :=
  compact (shortestScript (Text.terminatedLines old.toList) (Text.terminatedLines new.toList))

/-- A changed line behind its sign, with a line feed at its end. -/
def markedLine (sign : Char) (line : List Char) : List Char :=
  sign :: line ++ (if line.getLast? = some '\n' then [] else ['\n'])

/-- The changes of a script; `minus` and `plus` are the lines changed since the last
kept one. -/
def changesFrom (minus plus : List (List Char)) : List (Edit (List Char)) → List Char
  | [] => minus.flatMap (markedLine '-') ++ plus.flatMap (markedLine '+')
  | .drop lines :: script => changesFrom (minus ++ lines) plus script
  | .add lines :: script => changesFrom minus (plus ++ lines) script
  | .keep _ :: script =>
    minus.flatMap (markedLine '-') ++ plus.flatMap (markedLine '+') ++ changesFrom [] [] script

/-- The changes of a script as text. -/
def changeText (script : List (Edit (List Char))) : String :=
  String.ofList (changesFrom [] [] script)

/-- The changes between two texts, line by line. -/
def lineDiff (old new : String) : String :=
  changeText (lineScript old new)

end TreeSmith.Diff
