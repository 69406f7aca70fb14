import TreeSmith.Pattern.Basic
import TreeSmith.Text.ByteRange

/-!
# The size of a pattern's automaton

A pattern is searched for by an automaton over bytes, forward to find the end of a
match and backward to find its start.  A repetition with bounds copies the automaton
of what it repeats, so a short pattern can need a very large one; a pattern that needs
more than ten mebibytes in either direction is refused.

## Main definitions

* `classRoom` — the bytes that a set of characters takes.
* `Extent`, `Pattern.extent` — the bytes that a pattern takes, and what its parents
  need to know of it.
* `Pattern.fits` — the automaton is not too large.
-/

namespace TreeSmith.Pattern

/-- The direction in which an automaton reads a text. -/
inductive Direction
  | forward | backward
  deriving DecidableEq, Repr

/-- The bytes of a state. -/
def stateRoom : Nat := 32

/-- The bytes of a transition on a range of bytes. -/
def transitionRoom : Nat := 8

/-- The bytes of a branch of a state that goes on in several others. -/
def branchRoom : Nat := 4

/-- The largest automaton, in bytes. -/
def maxRoom : Nat := 10485760

/-! ### Sets of characters -/

/-- The states of an automaton for some rows, each as the rows that lead from it to
the end. -/
def rowStates : Nat → List Text.ByteRow → List (List Text.ByteRow)
  | 0, _ => []
  | fuel + 1, rows =>
    rows :: (Text.rowGroups rows).flatMap fun group =>
      if group.2 = [[]] then [] else rowStates fuel group.2

/-- How many states hold the rows when no two of them are put together but where rows
have the same start. -/
def rowEdges : Nat → List Text.ByteRow → Nat
  | 0, _ => 0
  | fuel + 1, rows =>
    (Text.rowGroups rows).foldl (fun n group => n + 1 + rowEdges fuel group.2) 0

/-- The bytes of an automaton for some rows: forward, states with the same way to the
end are one; backward, rows share their starts only. -/
def rowsRoom (direction : Direction) (rows : List Text.ByteRow) : Nat :=
  match direction with
  | .forward =>
    (rowStates 5 rows).eraseDups.foldl
      (fun n state => n + stateRoom + transitionRoom * (Text.rowGroups state).length) stateRoom
  | .backward => stateRoom * (2 + rowEdges 5 rows) + branchRoom * rows.length

/-- The bytes of an automaton for a class of characters. -/
def classRoom (direction : Direction) (table : Text.CodeRange.Table) : Nat :=
  match table.normal with
  | [(first, last)] =>
    if first = last then stateRoom * (Text.encodeBytes first).length
    else if last < 0x80 then 2 * stateRoom + transitionRoom
    else rowsRoom direction (Text.byteRows [(first, last)])
  | ranges =>
    if ranges.all fun r => r.2 < 0x80 then 2 * stateRoom + transitionRoom * ranges.length
    else rowsRoom direction (Text.byteRows ranges)

/-! ### Patterns -/

/-- What has to be known of a pattern to build the automaton of a larger one. -/
structure Extent where
  /-- The bytes of its automaton, none for the pattern of nothing. -/
  room : Nat
  /-- The number of alternatives that it is made of. -/
  branches : Nat
  /-- The bytes of all alternatives together. -/
  branchesRoom : Nat
  /-- The class of characters of which it takes one, if it does. -/
  chars : Option Text.CodeRange.Table
  /-- It takes no characters at all. -/
  widthless : Bool
  /-- It can take no characters. -/
  nullable : Bool

/-- The bytes of an automaton that is there even for nothing. -/
def Extent.ownRoom (x : Extent) : Nat := max stateRoom x.room

/-- A pattern that is a single alternative. -/
def Extent.single (room : Nat) (widthless nullable : Bool) : Extent :=
  ⟨room, 1, max stateRoom room, none, widthless, nullable⟩

/-- One character of a class. -/
def Extent.ofClass (direction : Direction) (table : Text.CodeRange.Table) : Extent :=
  { Extent.single (classRoom direction table) false false with chars := some table }

/-- One pattern after another; nothing adds nothing. -/
def Extent.seq (x y : Extent) : Extent :=
  if x.room = 0 then y
  else if y.room = 0 then x
  else .single (x.room + y.room) (x.widthless && y.widthless) (x.nullable && y.nullable)

/-- One of two patterns; characters of two classes are one character of both. -/
def Extent.either (direction : Direction) (x y : Extent) : Extent :=
  let branches := x.branches + y.branches
  let branchesRoom := x.branchesRoom + y.branchesRoom
  match x.chars, y.chars with
  | some s, some t => { Extent.ofClass direction (s ++ t) with branches, branchesRoom }
  | _, _ =>
    ⟨2 * stateRoom + branchRoom * branches + branchesRoom, branches, branchesRoom, none,
      x.widthless && y.widthless, x.nullable || y.nullable⟩

/-- The bytes of copies one after another. -/
def copiesRoom (n : Nat) (room : Nat) : Nat :=
  if n = 0 then stateRoom else n * room

/-- The bytes of a state that goes on in two others. -/
def forkRoom : Nat := stateRoom + 2 * branchRoom

/-- The bytes of a repetition. -/
def timesRoom (least : Nat) (most : Option Nat) (x : Extent) : Nat :=
  match most with
  | none =>
    if least = 0 then
      if x.nullable then x.ownRoom + 2 * forkRoom + stateRoom else x.ownRoom + forkRoom
    else least * x.ownRoom + forkRoom
  | some most =>
    if least = 0 && most = 1 then forkRoom + x.ownRoom + stateRoom
    else if least = most then copiesRoom least x.ownRoom
    else
      copiesRoom least x.ownRoom + stateRoom + (most - least) * (forkRoom + x.ownRoom)

/-- A repetition; what takes no characters is repeated at most once. -/
def Extent.times (least : Nat) (most : Option Nat) (x : Extent) : Extent :=
  let (least, most) :=
    if x.widthless then (min least 1, some (min (most.getD 1) 1)) else (least, most)
  if most = some 0 then .single 0 true true
  else if least = 1 && most = some 1 then x
  else .single (timesRoom least most x) x.widthless (least = 0 || x.nullable)

/-- The extent of a pattern's automaton.  Only forward does it keep the places of
groups. -/
def extent (direction : Direction) : Pattern → Extent
  | .empty => .single 0 true true
  | .oneOf fold set => .ofClass direction (set.ranges fold)
  | .start _ => .single stateRoom true true
  | .finish _ => .single stateRoom true true
  | .wordEdge => .single stateRoom true true
  | .noWordEdge => .single stateRoom true true
  | .wordStart => .single stateRoom true true
  | .wordEnd => .single stateRoom true true
  | .group a =>
    let x := a.extent direction
    let marks := if direction = .forward then 2 * stateRoom else 0
    .single (marks + x.ownRoom) x.widthless x.nullable
  | .seq a b => (a.extent direction).seq (b.extent direction)
  | .either a b => (a.extent direction).either direction (b.extent direction)
  | .times least most a => (a.extent direction).times least most

/-- The bytes of the whole automaton: it skips characters before the match, keeps the
place of the match when it reads forward, and has a last state. -/
def wholeRoom (direction : Direction) (a : Pattern) : Nat :=
  let skipping := forkRoom + 2 * stateRoom + transitionRoom
  let marks := if direction = .forward then 2 * stateRoom else 0
  skipping + marks + (a.extent direction).ownRoom + stateRoom

/-- The automaton is not too large in either direction. -/
def fits (a : Pattern) : Bool :=
  wholeRoom .forward a ≤ maxRoom && wholeRoom .backward a ≤ maxRoom

end TreeSmith.Pattern
