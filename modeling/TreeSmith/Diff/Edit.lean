/-!
# Edit scripts

An edit script turns one list into another by keeping, dropping and adding runs of
items.  Reading it in two ways gives both lists back.

## Main definitions

* `Edit` — a run of items that is kept, dropped or added.
* `Edit.source`, `Edit.result` — the lists that a script leads from and to.
* `sharedFront`, `sharedBack` — how many items two lists share at an end.
-/

namespace TreeSmith

/-- A run of items in an edit script. -/
inductive Edit (α : Type)
  /-- Items of both lists. -/
  | keep (items : List α)
  /-- Items of the first list only. -/
  | drop (items : List α)
  /-- Items of the second list only. -/
  | add (items : List α)
  deriving DecidableEq, Repr

namespace Edit

variable {α : Type}

/-- The items of a run. -/
def items : Edit α → List α
  | .keep items => items
  | .drop items => items
  | .add items => items

/-- The list that a script leads from. -/
def source : List (Edit α) → List α
  | [] => []
  | .keep items :: script => items ++ source script
  | .drop items :: script => items ++ source script
  | .add _ :: script => source script

/-- The list that a script leads to. -/
def result : List (Edit α) → List α
  | [] => []
  | .keep items :: script => items ++ result script
  | .drop _ :: script => result script
  | .add items :: script => items ++ result script

/-- The items that a script drops. -/
def dropped : List (Edit α) → List α
  | [] => []
  | .drop items :: script => items ++ dropped script
  | .keep _ :: script => dropped script
  | .add _ :: script => dropped script

/-- The items that a script adds. -/
def added : List (Edit α) → List α
  | [] => []
  | .add items :: script => items ++ added script
  | .keep _ :: script => added script
  | .drop _ :: script => added script

/-- The items that a script keeps. -/
def kept : List (Edit α) → List α
  | [] => []
  | .keep items :: script => items ++ kept script
  | .drop _ :: script => kept script
  | .add _ :: script => kept script

end Edit

section

variable {α : Type} [DecidableEq α]

/-- How many items two lists share at the front. -/
def sharedFront : List α → List α → Nat
  | a :: as, b :: bs => if a = b then sharedFront as bs + 1 else 0
  | _, _ => 0

/-- How many items two lists share at the end. -/
def sharedBack (xs ys : List α) : Nat :=
  sharedFront xs.reverse ys.reverse

end

end TreeSmith
