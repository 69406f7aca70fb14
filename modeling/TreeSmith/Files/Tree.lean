import TreeSmith.Text.Lines
import TreeSmith.Text.Utf8

/-!
# File trees

The files and folders below a working folder, by their locations.  The working
folder itself is always there.  A path is followed step by step, and every step starts
from a folder that is there.

## Main definitions

* `Location`, `joinPath` — places in the tree, and paths as they are written.
* `Content`, `Entry`, `FileTree` — files, folders and the tree of them.
* `FileFault` — why an operation fails.
* `FileTree.step`, `FileTree.walk`, `FileTree.resolve` — the place that a path leads to.
* `FileTree.read`, `FileTree.write`, `FileTree.rename`, `FileTree.remove`,
  `FileTree.makeFolders` — the operations.
* `FileTree.below` — everything below a folder.
-/

namespace TreeSmith

/-- The names on the way from the working folder to a place. -/
abbrev Location := List String

/-- A path inside a folder, with one slash between the two. -/
def joinPath (folder path : String) : String :=
  if folder = "" then path
  else if folder.toList.getLast? = some '/' then folder ++ path
  else folder ++ "/" ++ path

/-- The names of a path without those at its end that stay where they are. -/
def withoutStays (names : List String) : List String :=
  (names.reverse.dropWhile fun name => name = "" || name = ".").reverse

/-- What a file holds. -/
inductive Content
  /-- A text. -/
  | text (s : String)
  /-- Bytes that are no text. -/
  | binary (bytes : List UInt8)
  deriving DecidableEq

/-- Bytes as the content of a file. -/
def Content.ofBytes (bytes : ByteArray) : Content :=
  match Text.textOfBytes? bytes with
  | some s => .text s
  | none => .binary bytes.toList

/-- A file or a folder. -/
inductive Entry
  /-- A file with its content. -/
  | file (content : Content)
  /-- A folder. -/
  | folder
  deriving DecidableEq

/-- The list with an entry in the place of one for the same location, or at the
end. -/
def putEntry (loc : Location) (e : Entry) : List (Location × Entry) → List (Location × Entry)
  | [] => [(loc, e)]
  | entry :: more => if entry.1 = loc then (loc, e) :: more else entry :: putEntry loc e more

/-- The locations of some entries. -/
def locations (entries : List (Location × Entry)) : List Location :=
  entries.map (·.1)

/-- A location after putting an entry was there before or is the entry's. -/
theorem mem_locations_putEntry {loc l : Location} {e : Entry} {entries : List (Location × Entry)}
    (h : l ∈ locations (putEntry loc e entries)) : l = loc ∨ l ∈ locations entries := by
  induction entries with
  | nil => simpa [putEntry, locations] using h
  | cons entry more ih =>
    simp only [putEntry] at h
    split at h
    · rcases List.mem_cons.mp h with h | h
      · exact .inl h
      · exact .inr (List.mem_cons_of_mem _ h)
    · rcases List.mem_cons.mp h with h | h
      · exact .inr (h ▸ List.mem_cons_self)
      · exact (ih h).imp_right (List.mem_cons_of_mem _)

/-- Putting an entry keeps the locations distinct. -/
theorem nodup_locations_putEntry {entries : List (Location × Entry)}
    (h : (locations entries).Nodup) (loc : Location) (e : Entry) :
    (locations (putEntry loc e entries)).Nodup := by
  induction entries with
  | nil => simp [putEntry, locations]
  | cons entry more ih =>
    obtain ⟨hentry, hmore⟩ := List.nodup_cons.mp h
    simp only [putEntry]
    split
    · next heq => exact List.nodup_cons.mpr ⟨heq ▸ hentry, hmore⟩
    · next hne =>
      refine List.nodup_cons.mpr ⟨fun hmem => ?_, ih hmore⟩
      rcases mem_locations_putEntry hmem with h | h
      · exact hne h
      · exact hentry h

/-- The files and folders below the working folder. -/
structure FileTree where
  /-- The places that hold something. -/
  entries : List (Location × Entry)
  /-- Each place holds one thing. -/
  distinct : (locations entries).Nodup

/-- Why an operation on files fails. -/
inductive FileFault
  /-- Nothing is there. -/
  | missing
  /-- A file stands where a folder is wanted. -/
  | notFolder
  /-- A folder stands where a file is wanted. -/
  | isFolder
  /-- The file holds no text. -/
  | notText
  /-- A name or a path has too many bytes. -/
  | tooLong
  /-- A path holds the character that no name may hold. -/
  | badName
  deriving DecidableEq, Repr

namespace FileTree

/-- The tree with nothing in it. -/
def empty : FileTree := ⟨[], List.Pairwise.nil⟩

/-- What stands at a place. -/
def get? (t : FileTree) (loc : Location) : Option Entry :=
  if loc = [] then some .folder else (t.entries.find? (·.1 == loc)).map (·.2)

/-- The tree with something at a place. -/
def put (t : FileTree) (loc : Location) (e : Entry) : FileTree :=
  ⟨putEntry loc e t.entries, nodup_locations_putEntry t.distinct loc e⟩

/-- The tree with nothing at a place. -/
def erase (t : FileTree) (loc : Location) : FileTree :=
  ⟨t.entries.filter (·.1 ≠ loc), t.distinct.sublist (List.filter_sublist.map _)⟩

/-- A folder stands at the place. -/
def isFolder (t : FileTree) (loc : Location) : Bool :=
  t.get? loc == some .folder

/-- A file stands at the place. -/
def isFile (t : FileTree) (loc : Location) : Bool :=
  match t.get? loc with
  | some (.file _) => true
  | _ => false

/-- What stands at a place. -/
def find (t : FileTree) (loc : Location) : Except FileFault Entry :=
  match t.get? loc with
  | some e => .ok e
  | none => .error .missing

/-! ### Paths -/

/-- The most bytes of a name. -/
def maxNameBytes : Nat := 255

/-- The most bytes of a path. -/
def maxPathBytes : Nat := 4095

/-- One step along a path from a place, at which a folder has to be: an empty name or
a single dot stays there, and two dots go up. -/
def step (t : FileTree) (loc : Location) (name : String) : Except FileFault Location :=
  match t.get? loc with
  | none => .error .missing
  | some (.file _) => .error .notFolder
  | some .folder =>
    if name = "" || name = "." then .ok loc
    else if name = ".." then .ok loc.dropLast
    else if maxNameBytes < name.utf8ByteSize then .error .tooLong
    else .ok (loc ++ [name])

/-- Why a path leads nowhere in any tree, if it does. -/
def pathFault? (path : String) : Option FileFault :=
  if path.toList.contains '\x00' then some .badName
  else if maxPathBytes < path.utf8ByteSize then some .tooLong
  else none

/-- The place that a path leads to from another place.  All places on the way are
folders; there need be nothing at the last one. -/
def walk (t : FileTree) (start : Location) (path : String) : Except FileFault Location :=
  match pathFault? path with
  | some fault => .error fault
  | none => (Text.split '/' path).foldlM t.step start

/-- The place that a path leads to from the working folder. -/
def resolve (t : FileTree) (path : String) : Except FileFault Location :=
  t.walk [] path

/-- What stands at a path. -/
def findAt (t : FileTree) (path : String) : Except FileFault Entry := do
  let loc ← t.resolve path
  t.find loc

/-- A file stands at a path. -/
def isFileAt (t : FileTree) (path : String) : Bool :=
  match t.findAt path with
  | .ok (.file _) => true
  | _ => false

/-! ### Operations -/

/-- What the file at a place holds. -/
def readContent (t : FileTree) (loc : Location) : Except FileFault Content :=
  match t.find loc with
  | .error fault => .error fault
  | .ok .folder => .error .isFolder
  | .ok (.file content) => .ok content

/-- The text of the file at a place. -/
def read (t : FileTree) (loc : Location) : Except FileFault String :=
  match t.readContent loc with
  | .error fault => .error fault
  | .ok (.binary _) => .error .notText
  | .ok (.text s) => .ok s

/-- The text of the file at a path. -/
def readAt (t : FileTree) (path : String) : Except FileFault String := do
  let loc ← t.resolve path
  t.read loc

/-- The folder in which a file can be put at a place. -/
def checkParent (t : FileTree) (loc : Location) : Except FileFault Unit :=
  if t.isFolder loc.dropLast then .ok () else .error .missing

/-- Writes a file into a folder that is there, over the file at the place if there
is one. -/
def write (t : FileTree) (loc : Location) (content : Content) : Except FileFault FileTree :=
  match t.checkParent loc with
  | .error fault => .error fault
  | .ok () => if t.isFolder loc then .error .isFolder else .ok (t.put loc (.file content))

/-- Writes a file at a path. -/
def writeAt (t : FileTree) (path : String) (content : Content) : Except FileFault FileTree := do
  let loc ← t.resolve path
  t.write loc content

/-- Moves a file to a place in a folder that is there, over the file at that place
if there is one. -/
def rename (t : FileTree) (source target : Location) : Except FileFault FileTree :=
  match t.readContent source with
  | .error fault => .error fault
  | .ok content =>
    match t.checkParent target with
    | .error fault => .error fault
    | .ok () =>
      if t.isFolder target then .error .isFolder
      else .ok ((t.erase source).put target (.file content))

/-- Removes a file. -/
def remove (t : FileTree) (loc : Location) : Except FileFault FileTree :=
  match t.readContent loc with
  | .error fault => .error fault
  | .ok _ => .ok (t.erase loc)

/-- Goes along a path and makes the folders that are not there: the tree with those
that could be made, and the place at the end. -/
def makeSteps : FileTree → Location → List String → FileTree × Except FileFault Location
  | t, loc, [] => (t, .ok loc)
  | t, loc, name :: more =>
    match t.step loc name with
    | .error fault => (t, .error fault)
    | .ok next =>
      match t.get? next with
      | some (.file _) => (t, .error .notFolder)
      | some .folder => makeSteps t next more
      | none => makeSteps (t.put next .folder) next more

/-- The folder at a step from a place. -/
def stepToFolder (t : FileTree) (loc : Location) (name : String) : Except FileFault Location := do
  let next ← t.step loc name
  match t.get? next with
  | some .folder => return next
  | some (.file _) => .error .notFolder
  | none => .error .missing

/-- Makes the folder at a path and the folders on the way, where there are none.  A
folder that is named by a dot at its end has to be there. -/
def makeFolders (t : FileTree) (path : String) : FileTree × Except FileFault Location :=
  let names := Text.split '/' path
  let kept := withoutStays names
  match pathFault? path with
  | some fault => (t, .error fault)
  | none =>
    if (names.drop kept.length).contains "." then
      match t.makeSteps [] kept.dropLast, kept.getLast? with
      | (t, .ok loc), some last => (t, t.stepToFolder loc last)
      | result, _ => result
    else t.makeSteps [] names

/-- What stands below a place, by the names on the way from there. -/
def below (t : FileTree) (loc : Location) : List (Location × Entry) :=
  t.entries.filterMap fun entry =>
    if loc.isPrefixOf entry.1 && loc.length < entry.1.length then
      some (entry.1.drop loc.length, entry.2)
    else none

end FileTree

/-- A location as a path. -/
def Location.path (loc : Location) : String :=
  String.intercalate "/" loc

end TreeSmith
