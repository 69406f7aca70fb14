/-!
# Similarity of names

How well a pattern fits a name as a subsequence of it.  Matched characters earn
points, more at the start of a word, gaps cost points, and the best alignment
counts.  The alignment is computed in two alternating rows of cells, which the
names of one list share: a name finds in a cell what the name before it left there.

## Main definitions

* `firstBest` — the first candidate with the highest score.
* `Similarity.place` — the points for the place of a character.
* `Similarity.score` — the score of one name.
* `Similarity.scores` — the scores of a list of names.
-/

namespace TreeSmith

/-- The better of the best candidate so far and a further one, which has to score
higher to take its place. -/
def better (best : Option (String × Int)) (candidate : String × Option Int) :
    Option (String × Int) :=
  match candidate.2, best with
  | none, _ => best
  | some score, none => some (candidate.1, score)
  | some score, some (name, top) =>
    if top < score then some (candidate.1, score) else some (name, top)

/-- The first candidate with the highest score, among those that have one. -/
def firstBest (candidates : List (String × Option Int)) : Option String :=
  (candidates.foldl better none).map (·.1)

namespace Similarity

/-- A cell of the alignment. -/
structure Cell where
  /-- The best score with the character matched. -/
  matched : Int
  /-- The best score with the character passed over. -/
  passed : Int
  /-- The points for a run of matches. -/
  bonus : Int
  deriving DecidableEq, Repr, Inhabited

/-- A score that no alignment reaches. -/
def worst : Int := -32768

/-- A cell before any alignment. -/
def Cell.fresh : Cell := ⟨worst, worst, 0⟩

/-- A character that divides words sharply: none at all, a space, slash, bar or
bracket. -/
def isHardSeparator (c : Char) : Bool :=
  c.toNat = 0 || c = ' ' || c = '/' || c = '\\' || c = '|' || c = '(' || c = ')' || c = '[' ||
    c = ']' || c = '{' || c = '}'

/-- A character that divides words mildly: other punctuation. -/
def isSoftSeparator (c : Char) : Bool :=
  let n := c.toNat
  (0x21 ≤ n && n ≤ 0x27) || (0x2A ≤ n && n ≤ 0x2E) || (0x3A ≤ n && n ≤ 0x40) ||
    (0x5E ≤ n && n ≤ 0x60) || n = 0x7E

/-- The points for a character by what stands before it. -/
def place (before c : Char) : Int :=
  if isHardSeparator before then 8
  else if isSoftSeparator before then 7
  else if c.isUpper && !before.isUpper then 6
  else 0

/-- The points for the place of each character; the first counts twice. -/
def places (name : List Char) : List Int :=
  match name with
  | [] => []
  | c :: cs => 2 * place (Char.ofNat 0) c :: (List.zipWith place name cs)

/-- A comparison of characters that heeds the case of letters or not. -/
def sameChar (caseful : Bool) (a b : Char) : Bool :=
  if caseful then a == b else a.toLower == b.toLower

/-- The leftmost places of the pattern's characters in the name, counted from
`index`, if it is a subsequence. -/
def leftmost (caseful : Bool) : List Char → List Char → Nat → Option (List Nat)
  | [], _, _ => some []
  | _ :: _, [], _ => none
  | p :: ps, c :: cs, index =>
    if sameChar caseful c p then (leftmost caseful ps cs (index + 1)).map (index :: ·)
    else leftmost caseful (p :: ps) cs (index + 1)

/-- The two rows with `count` cells in all: cells beyond are cut off, and missing
ones are fresh. -/
def resize (cells : Array Cell) (count : Nat) : Array Cell :=
  cells.take count ++ Array.replicate (count - cells.size) Cell.fresh

/-- The cell at an index. -/
def cellAt (cells : Array Cell) (i : Nat) : Cell :=
  cells.getD i .fresh

/-- One step of the alignment: pattern character `p` at character `c` of the name,
whose place is worth `points`; `last` and `diag` are the indices of the cells
before it in its own row and in the row above. -/
def alignAt (caseful : Bool) (p c : Char) (points : Int) (last diag : Nat) (cells : Array Cell) :
    Array Cell :=
  let lastCell := cellAt cells last
  let diagCell := cellAt cells diag
  let current := cellAt cells (last + 1)
  let passed := max (lastCell.matched - 4) (lastCell.passed - 1)
  if sameChar caseful c p then
    let bonus := max (max lastCell.bonus points) 4
    let gained : Int := if p = c then 16 else 14
    let matched := max (diagCell.matched + bonus) (diagCell.passed + points) + gained
    (cells.setIfInBounds last { lastCell with bonus := bonus }).setIfInBounds (last + 1)
      { current with matched := matched, passed := passed }
  else cells.setIfInBounds (last + 1) ⟨worst, passed, 0⟩

/-- One row of the alignment: pattern character `p` against the characters of the
name from index `j` on, each with the points for its place. -/
def alignRow (caseful : Bool) (p : Char) (row above : Nat) :
    List (Char × Int) → Nat → Array Cell → Array Cell
  | [], _, cells => cells
  | (c, points) :: more, j, cells =>
    alignRow caseful p row above more (j + 1)
      (alignAt caseful p c points (row + j) (above + j) cells)

/-- The rows of the alignment: the pattern's characters, each from its leftmost
place on.  Row `i + 1` takes the place of row `i - 1`. -/
def alignRows (caseful : Bool) (name : List (Char × Int)) (columns : Nat) :
    List (Char × Nat) → Nat → Array Cell → Array Cell
  | [], _, cells => cells
  | (p, start) :: more, i, cells =>
    let row := (i + 1) % 2 * columns
    let above := i % 2 * columns
    alignRows caseful name columns more (i + 1)
      (alignRow caseful p row above (name.drop start) start cells)

/-- The score of a name and the cells that it leaves behind.  A name without the
pattern as a subsequence has no score and leaves the cells alone. -/
def score (pattern : List Char) (cells : Array Cell) (name : List Char) :
    Array Cell × Option Int :=
  let caseful := pattern.any Char.isUpper
  match leftmost caseful pattern name 0 with
  | none => (cells, none)
  | some [] => (cells, some 0)
  | some (start :: starts) =>
    let columns := name.length + 1
    let sized := (resize cells (2 * columns)).setIfInBounds (columns + start) .fresh
    let headed := (List.range columns).foldl (fun cs j => cs.setIfInBounds j ⟨worst, -1, 0⟩) sized
    let filled := alignRows caseful (name.zip (places name)) columns
      (pattern.zip (start :: starts)) 0 headed
    let final := pattern.length % 2 * columns
    let first := (start :: starts).getLast?.getD start
    let top := ((List.range columns).drop first).foldl
      (fun best j => max best (cellAt filled (final + j)).matched) worst
    (filled, some top)

/-- The scores of names in order, with the cells handed on from name to name. -/
def scoresFrom (pattern : List Char) (cells : Array Cell) : List String → List (Option Int)
  | [] => []
  | name :: names =>
    let (left, points) := score pattern cells name.toList
    points :: scoresFrom pattern left names

/-- The scores of names in order. -/
def scores (pattern : String) (names : List String) : List (Option Int) :=
  scoresFrom pattern.toList #[] names

end Similarity

end TreeSmith
