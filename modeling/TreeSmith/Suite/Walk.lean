import TreeSmith.Files.Tree

/-!
# Walks

What is found when a folder is gone through with all that is below it.  A name is stored
as bytes, and they need not be those of a text.

## Main definitions

* `RawName`, `rawPath`, `joinRaw` — names and paths as they are stored.
* `WalkEntry`, `Walk` — what is found from a path on.
* `walkFrom` — the walk through a tree of files.
-/

namespace TreeSmith.Suite

open Text (bytesOf)

/-- A name as it is stored. -/
abbrev RawName := List UInt8

/-- The byte between the names of a path. -/
def slash : UInt8 := 0x2F

/-- The byte before the extension of a name. -/
def dot : UInt8 := 0x2E

/-- Names one after another, as a path. -/
def rawPath (names : List RawName) : List UInt8 :=
  [slash].intercalate names

/-- A path inside a folder, with one slash between the two; the folder itself if the
path is empty. -/
def joinRaw (folder path : List UInt8) : List UInt8 :=
  if path = [] then folder
  else if folder = [] || folder.getLast? = some slash then folder ++ path
  else folder ++ slash :: path

/-- Something below the folder from which a walk starts. -/
structure WalkEntry where
  /-- The names on the way to it from the folder. -/
  names : List RawName
  /-- It is a file. -/
  isFile : Bool
  deriving DecidableEq

/-- What a walk finds. -/
inductive Walk
  /-- A file where the walk starts, by its own name, and nothing else. -/
  | file (name : RawName)
  /-- What is below the folder where the walk starts, in the order of the walk. -/
  | folder (entries : List WalkEntry)
  deriving DecidableEq

/-- Something in a tree of files as an entry of a walk. -/
def WalkEntry.ofTree (entry : Location × Entry) : WalkEntry :=
  ⟨entry.1.map bytesOf, match entry.2 with
    | .file _ => true
    | .folder => false⟩

/-- The walk from a path in a tree of files, unless nothing is there. -/
def walkFrom (t : FileTree) (root : String) : Option Walk := do
  if root = "" then none
  let loc ← (t.resolve root).toOption
  match ← (t.find loc).toOption with
  | .file _ => return .file (bytesOf (loc.getLast?.getD ""))
  | .folder => return .folder ((t.below loc).map .ofTree)

end TreeSmith.Suite
