import TreeSmith.Diff.Edit

/-!
# Shortest edit scripts

The common ends of two lists are kept, and what lies between them is split at a
point on a shortest way through the grid of both lists.  That point is found by
walking from both corners at once, one edit at a time, until the ways meet.

## Main definitions

* `Reach` — how far each diagonal has been walked.
* `forwardRound`, `backwardRound` — one more edit from either corner.
* `middle?` — a point where the two ways meet.
* `shortestScript` — the script.
-/

namespace TreeSmith.Diff

variable {α : Type} [DecidableEq α]

/-- How far each diagonal has been walked; diagonal `k` stands at index
`k + origin`. -/
structure Reach where
  /-- The index of diagonal zero. -/
  origin : Nat
  /-- The farthest place on each diagonal. -/
  places : Array Nat

/-- The farthest place on a diagonal. -/
def Reach.get (r : Reach) (k : Int) : Nat :=
  r.places.getD (k + r.origin).toNat 0

/-- The reach with a new place on a diagonal. -/
def Reach.set (r : Reach) (k : Int) (x : Nat) : Reach :=
  { r with places := r.places.setIfInBounds (k + r.origin).toNat x }

/-- No diagonal walked, with room for `edits` edits. -/
def Reach.start (edits : Nat) : Reach :=
  ⟨edits + 1, Array.replicate (2 * edits + 3) 0⟩

/-- The place on diagonal `k` after `d` edits: the farther of the two neighbours,
reached by a step down or a step to the right. -/
def Reach.step (r : Reach) (d k : Int) : Nat :=
  if k = -d || (k ≠ d && decide (r.get (k - 1) < r.get (k + 1))) then r.get (k + 1)
  else r.get (k - 1) + 1

/-- The two lists as arrays, with their sizes and the difference of the sizes. -/
structure Grid (α : Type) where
  /-- The first list. -/
  old : Array α
  /-- The second list. -/
  new : Array α

/-- How many items in a row agree from two places on, going up. -/
def Grid.ahead (g : Grid α) : Nat → Nat → Nat → Nat
  | 0, _, _ => 0
  | fuel + 1, x, y =>
    match g.old[x]?, g.new[y]? with
    | some a, some b => if a = b then g.ahead fuel (x + 1) (y + 1) + 1 else 0
    | _, _ => 0

/-- How many items in a row agree before two places, going down. -/
def Grid.behind (g : Grid α) : Nat → Nat → Nat → Nat
  | fuel + 1, x + 1, y + 1 =>
    match g.old[x]?, g.new[y]? with
    | some a, some b => if a = b then g.behind fuel x y + 1 else 0
    | _, _ => 0
  | _, _, _ => 0

/-- How many more edits the second list has than the first. -/
def Grid.delta (g : Grid α) : Int := (g.old.size : Int) - g.new.size

/-- Either a meeting point, or how far the diagonals reach now. -/
abbrev Round := Reach ⊕ (Nat × Nat)

/-- Edit `d` from the front on the diagonals `k`, `k - 2`, …, `count` of them: a
meeting point with the way from the back, or the new reach. -/
def forwardRound (g : Grid α) (back : Reach) (d : Nat) : Nat → Int → Reach → Round
  | 0, _, front => .inl front
  | count + 1, k, front =>
    let x := front.step d k
    let y := (x : Int) - k
    let n := g.old.size
    let inside := decide (x < n) && decide (0 ≤ y) && decide (y < g.new.size)
    let far := if inside then x + g.ahead n x y.toNat else x
    let front := front.set k far
    if g.delta % 2 ≠ 0 && decide ((k - g.delta).natAbs + 1 ≤ d) &&
        decide (n ≤ far + back.get (g.delta - k)) then
      .inr (x, y.toNat)
    else forwardRound g back d count (k - 2) front

/-- Edit `d` from the back, in the same way. -/
def backwardRound (g : Grid α) (front : Reach) (d : Nat) : Nat → Int → Reach → Round
  | 0, _, back => .inl back
  | count + 1, k, back =>
    let x := back.step d k
    let y := (x : Int) - k
    let n := g.old.size
    let m := g.new.size
    let inside := decide (x < n) && decide (0 ≤ y) && decide (y < m)
    let run := if inside then g.behind n (n - x) (m - y.toNat) else 0
    let back := back.set k (x + run)
    if g.delta % 2 = 0 && decide ((k - g.delta).natAbs ≤ d) &&
        decide (n ≤ x + run + front.get (g.delta - k)) then
      .inr (n - (x + run), m - (y.toNat + run))
    else backwardRound g front d count (k - 2) back

/-- Rounds from both corners with `d`, `d + 1`, … edits until the ways meet. -/
def meet? (g : Grid α) : Nat → Nat → Reach → Reach → Option (Nat × Nat)
  | 0, _, _, _ => none
  | fuel + 1, d, front, back =>
    match forwardRound g back d (d + 1) d front with
    | .inr point => some point
    | .inl front =>
      match backwardRound g front d (d + 1) d back with
      | .inr point => some point
      | .inl back => meet? g fuel (d + 1) front back

/-- A point on a shortest way between two lists that splits both into smaller
problems. -/
def middle? (old new : List α) : Option (Nat × Nat) :=
  let edits := (old.length + new.length + 1) / 2 + 1
  let start := Reach.start edits
  match meet? ⟨old.toArray, new.toArray⟩ edits 0 start start with
  | none => none
  | some (x, y) =>
    if x ≤ old.length && y ≤ new.length && 0 < x + y && x + y < old.length + new.length then
      some (x, y)
    else none

/-- A run that is kept, unless it is empty. -/
def keepRun (items : List α) : List (Edit α) :=
  if items.isEmpty then [] else [.keep items]

/-- The script between two lists: their common ends, and what lies between them
split in two.  Each split makes the lists smaller, so their lengths are fuel
enough. -/
def scriptBetween : Nat → List α → List α → List (Edit α)
  | 0, old, new => [.drop old, .add new]
  | fuel + 1, old, new =>
    let front := sharedFront old new
    let oldRest := old.drop front
    let newRest := new.drop front
    let back := sharedBack oldRest newRest
    let oldMiddle := oldRest.take (oldRest.length - back)
    let newMiddle := newRest.take (newRest.length - back)
    let between :=
      match oldMiddle, newMiddle with
      | [], [] => []
      | _ :: _, [] => [.drop oldMiddle]
      | [], _ :: _ => [.add newMiddle]
      | _ :: _, _ :: _ =>
        match middle? oldMiddle newMiddle with
        | none => [.drop oldMiddle, .add newMiddle]
        | some (x, y) =>
          scriptBetween fuel (oldMiddle.take x) (newMiddle.take y) ++
            scriptBetween fuel (oldMiddle.drop x) (newMiddle.drop y)
    keepRun (old.take front) ++ between ++ keepRun (oldRest.drop (oldRest.length - back))

/-- A shortest script between two lists. -/
def shortestScript (old new : List α) : List (Edit α) :=
  scriptBetween (old.length + new.length + 1) old new

end TreeSmith.Diff
