import TreeSmith.Diff.Edit

/-!
# Compact edit scripts

Runs of changes that can slide along the items that are kept are moved together:
every run is moved as far up as it goes, joined with its neighbours, and then moved
as far down as it goes.  A run slides over kept items that repeat at its other end,
so the lists that the script leads from and to stay the same.

## Main definitions

* `Cursor` — a script around one of its runs.
* `Cursor.moveUp`, `Cursor.moveDown` — the two movements.
* `compact` — every dropped run moved, then every added run.
-/

namespace TreeSmith.Diff

variable {α : Type}

/-- A script around one of its runs: the runs before it, nearest first, the run, and
the runs after it. -/
structure Cursor (α : Type) where
  /-- The runs before, nearest first. -/
  before : List (Edit α)
  /-- The run itself. -/
  current : Edit α
  /-- The runs after. -/
  after : List (Edit α)

/-- The script that the cursor is in. -/
def Cursor.script (c : Cursor α) : List (Edit α) :=
  c.before.reverse ++ c.current :: c.after

/-- The runs and items of a script together, which bound how far a run can move. -/
def weight : List (Edit α) → Nat
  | [] => 0
  | e :: script => e.items.length + 1 + weight script

/-- A kept run in front of a script, as one run with a kept run that is there. -/
def keepBefore (items : List α) : List (Edit α) → List (Edit α)
  | .keep more :: script => .keep (items ++ more) :: script
  | script => .keep items :: script

/-- A kept run behind the runs before a cursor, as one run with a kept run that is
there. -/
def keepAfter (items : List α) : List (Edit α) → List (Edit α)
  | .keep more :: script => .keep (more ++ items) :: script
  | script => .keep items :: script

/-- A kept run next to a cursor, unless nothing is left of it. -/
def keepRest (items : List α) (script : List (Edit α)) : List (Edit α) :=
  if items.isEmpty then script else .keep items :: script

variable [DecidableEq α]

/-- One movement up: over a run of the other kind, into a run of the same kind, or
along the end of a kept run.  Only added items slide along kept ones. -/
def Cursor.up? (c : Cursor α) : Option (Cursor α) :=
  match c.before, c.current with
  | [], _ => none
  | .keep run :: before, .add items =>
    let k := sharedBack run items
    if 0 < k then
      let slid := run.drop (run.length - k)
      some ⟨keepRest (run.take (run.length - k)) before,
        .add (slid ++ items.take (items.length - k)), keepBefore slid c.after⟩
    else if run.isEmpty then some { c with before := before } else none
  | .keep run :: before, _ => if run.isEmpty then some { c with before := before } else none
  | .drop run :: before, .drop items => some ⟨before, .drop (run ++ items), c.after⟩
  | .add run :: before, .add items => some ⟨before, .add (run ++ items), c.after⟩
  | other :: before, current => some ⟨before, current, other :: c.after⟩

/-- One movement down: a movement up with the roles of the two ends exchanged. -/
def Cursor.down? (c : Cursor α) : Option (Cursor α) :=
  match c.after, c.current with
  | [], _ => none
  | .keep run :: after, .add items =>
    let k := sharedFront run items
    if 0 < k then
      let slid := run.take k
      some ⟨keepAfter slid c.before, .add (items.drop k ++ slid), keepRest (run.drop k) after⟩
    else if run.isEmpty then some { c with after := after } else none
  | .keep run :: after, _ => if run.isEmpty then some { c with after := after } else none
  | .drop run :: after, .drop items => some ⟨c.before, .drop (items ++ run), after⟩
  | .add run :: after, .add items => some ⟨c.before, .add (items ++ run), after⟩
  | other :: after, current => some ⟨other :: c.before, current, after⟩

/-- Movements of one kind until there is none left. -/
def Cursor.slide (move? : Cursor α → Option (Cursor α)) : Nat → Cursor α → Cursor α
  | 0, c => c
  | fuel + 1, c =>
    match move? c with
    | none => c
    | some moved => slide move? fuel moved

/-- As far up as the run goes; every movement makes what is before it lighter. -/
def Cursor.moveUp (c : Cursor α) : Cursor α :=
  slide up? (weight c.before) c

/-- As far down as the run goes. -/
def Cursor.moveDown (c : Cursor α) : Cursor α :=
  slide down? (weight c.after) c

/-- The runs that `chosen` picks, from left to right, each moved up and then down. -/
def compactRuns (chosen : Edit α → Bool) :
    Nat → List (Edit α) → List (Edit α) → List (Edit α)
  | 0, before, after => before.reverse ++ after
  | _ + 1, before, [] => before.reverse
  | fuel + 1, before, e :: after =>
    if chosen e then
      let c := (Cursor.moveUp ⟨before, e, after⟩).moveDown
      compactRuns chosen fuel (c.current :: c.before) c.after
    else compactRuns chosen fuel (e :: before) after

/-- The run is dropped. -/
def isDrop : Edit α → Bool
  | .drop _ => true
  | _ => false

/-- The run is added. -/
def isAdd : Edit α → Bool
  | .add _ => true
  | _ => false

/-- The script with every dropped run moved and then every added run. -/
def compact (script : List (Edit α)) : List (Edit α) :=
  let dropsMoved := compactRuns isDrop (2 * weight script + 1) [] script
  compactRuns isAdd (2 * weight dropsMoved + 1) [] dropsMoved

end TreeSmith.Diff
