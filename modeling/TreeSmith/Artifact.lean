import TreeSmith.Checksum
import TreeSmith.Diff.Lines
import TreeSmith.Files.Tree
import TreeSmith.Name

/-!
# Artifacts

The text of a family's module, how it is put into a folder, and how it is compared
with what is there.  Artifacts are staged beside their targets first, and targets
are replaced only when every artifact is staged.

## Main definitions

* `Artifact` — the text of a module.
* `Folder` — a folder into which artifacts are put.
* `persist` — artifacts put into a folder.
* `Drift`, `check` — the artifacts that differ from what a folder holds.
-/

namespace TreeSmith

/-- The text of a family's module. -/
structure Artifact where
  /-- The family. -/
  family : String
  /-- The text. -/
  contents : String
  deriving DecidableEq, Repr

namespace Artifact

/-- The file of the module. -/
def fileName (a : Artifact) : String :=
  Name.artifactFile a.family

/-- The checksum of the text. -/
def checksum (a : Artifact) : Checksum :=
  .of a.contents

/-- The path of the module in a folder. -/
def pathIn (a : Artifact) (folder : String) : String :=
  joinPath folder a.fileName

/-- The file in which the module is staged. -/
def stagingName (a : Artifact) : String :=
  "." ++ a.fileName ++ ".tmp"

end Artifact

/-! ### Putting artifacts into a folder -/

/-- A folder that is there, by its path and its place. -/
structure Folder where
  /-- The path as it is written. -/
  path : String
  /-- The place. -/
  location : Location

/-- The place of a file in a folder. -/
def Folder.place (folder : Folder) (t : FileTree) (name : String) : Except FileFault Location :=
  match FileTree.pathFault? (joinPath folder.path name) with
  | some fault => .error fault
  | none => t.walk folder.location name

/-- Writes an artifact into its staging file: the tree, and the place of the file. -/
def stage (folder : Folder) (t : FileTree) (a : Artifact) :
    Except FileFault (FileTree × Location) := do
  let loc ← folder.place t a.stagingName
  let t ← t.write loc (.text a.contents)
  return (t, loc)

/-- Stages artifacts in order.  The result is the tree after the last one that could
be staged, the places staged until then, and the fault of the next one, if any. -/
def stageAll (folder : Folder) :
    FileTree → List Artifact → FileTree × List Location × Option FileFault
  | t, [] => (t, [], none)
  | t, a :: more =>
    match stage folder t a with
    | .error fault => (t, [], some fault)
    | .ok (t, loc) =>
      let (t, staged, fault) := stageAll folder t more
      (t, loc :: staged, fault)

/-- Removes staged files, as far as they can be removed. -/
def discard (t : FileTree) : List Location → FileTree
  | [] => t
  | loc :: more =>
    match t.remove loc with
    | .error _ => discard t more
    | .ok t => discard t more

/-- Moves a staged artifact to its target: the tree, and the place of the target. -/
def commit (folder : Folder) (t : FileTree) (staged : Location) (a : Artifact) :
    Except FileFault (FileTree × Location) := do
  let target ← folder.place t a.fileName
  let t ← t.rename staged target
  return (t, target)

/-- Moves staged artifacts to their targets in order.  When one cannot be moved, it
and the ones after it are discarded. -/
def commitAll (folder : Folder) :
    FileTree → List (Location × Artifact) → FileTree × Except FileFault (List Location)
  | t, [] => (t, .ok [])
  | t, (staged, a) :: more =>
    match commit folder t staged a with
    | .error fault => (discard t (staged :: more.map (·.1)), .error fault)
    | .ok (t, target) =>
      let (t, written) := commitAll folder t more
      (t, written.map (target :: ·))

/-- Puts artifacts into a folder, which is made if need be: the tree after it, and
the targets or the fault that stopped it. -/
def persist (t : FileTree) (path : String) (artifacts : List Artifact) :
    FileTree × Except FileFault (List Location) :=
  match t.makeFolders path with
  | (t, .error fault) => (t, .error fault)
  | (t, .ok location) =>
    let folder : Folder := ⟨path, location⟩
    let (t, staged, fault) := stageAll folder t artifacts
    match fault with
    | some fault => (discard t staged, .error fault)
    | none => commitAll folder t (staged.zip artifacts)

/-! ### Comparing artifacts with a folder -/

/-- An artifact that differs from what a folder holds. -/
structure Drift where
  /-- The file of the artifact. -/
  fileName : String
  /-- The checksum of the artifact. -/
  expected : Checksum
  /-- The checksum of what is there, if anything is. -/
  actual : Option Checksum
  /-- The changes from what is there to the artifact. -/
  diff : String
  deriving DecidableEq, Repr

/-- What a folder holds in the place of an artifact, if anything. -/
def onDisk (t : FileTree) (path : String) (a : Artifact) : Except FileFault (Option String) :=
  match t.readAt (a.pathIn path) with
  | .ok text => .ok (some text)
  | .error .missing => .ok none
  | .error fault => .error fault

/-- The drift of an artifact from a text or from nothing. -/
def drift? (a : Artifact) (found : Option String) : Option Drift :=
  if found.any a.checksum.verify then none
  else
    some ⟨a.fileName, a.checksum, found.map Checksum.of, Diff.lineDiff (found.getD "") a.contents⟩

/-- The artifacts that differ from what a folder holds, in order. -/
def check (t : FileTree) (path : String) : List Artifact → Except FileFault (List Drift)
  | [] => .ok []
  | a :: more =>
    match onDisk t path a with
    | .error fault => .error fault
    | .ok found =>
      match check t path more with
      | .error fault => .error fault
      | .ok drifts => .ok ((drift? a found).toList ++ drifts)

end TreeSmith
