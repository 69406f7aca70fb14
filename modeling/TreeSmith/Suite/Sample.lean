import TreeSmith.Pattern.Reader
import TreeSmith.Suite.Walk
import TreeSmith.Text.Quoted

/-!
# Samples

The files that a suite or a benchmark runs: those that a walk finds with the right
extension, by their names relative to where it starts, as far as a pattern selects them.
A name that is no text is given by the text with replacement characters.

## Main definitions

* `Sample` — a file with its name.
* `Walk.samples` — all samples that a walk finds.
* `gatherWalk` — the samples of a walk that a pattern selects, in order of their names, for
  any meaning of patterns.
* `gatherBy`, `gather` — the same in a tree of files, and with the patterns of `Pattern`.
-/

namespace TreeSmith.Suite

open Text (bytesOf lossy)

/-- A file to run. -/
structure Sample where
  /-- The path of the file, as it is stored. -/
  path : List UInt8
  /-- Its name relative to where it was searched, as a text. -/
  name : String
  deriving DecidableEq, Repr

/-- The path of a sample as a text.  In a tree of files, whose names are texts, nothing of
the path is lost. -/
def Sample.pathText (s : Sample) : String := lossy s.path

/-- The extension of samples. -/
def sampleExtension : RawName := bytesOf "lox"

/-- The extension of a file name: what follows the last dot, if something stands
before that dot. -/
def extension? (name : RawName) : Option RawName :=
  let reversed := name.reverse
  match reversed.dropWhile (· != dot) with
  | _ :: _ :: _ => some (reversed.takeWhile (· != dot)).reverse
  | _ => none

/-- A file of this name is a sample. -/
def isSampleName (name : RawName) : Bool :=
  extension? name == some sampleExtension

/-- The sample at the end of some names, searched from a path. -/
def sampleOf (root : List UInt8) (names : List RawName) : Sample :=
  ⟨joinRaw root (rawPath names), lossy (rawPath names)⟩

/-- The sample that an entry of a walk is, if it is one. -/
def sampleAt? (root : List UInt8) (e : WalkEntry) : Option Sample :=
  if e.isFile && e.names.getLast?.any isSampleName then some (sampleOf root e.names) else none

/-- All samples that a walk finds, in the order of the walk. -/
def Walk.samples (root : List UInt8) : Walk → List Sample
  | .file name => if isSampleName name then [sampleOf root []] else []
  | .folder entries => entries.filterMap (sampleAt? root)

/-- Why samples cannot be gathered. -/
inductive GatherFault
  /-- The pattern is not well formed. -/
  | pattern (text : String)
  /-- Nothing is there to search. -/
  | walk (root : String)
  deriving DecidableEq, Repr

/-- The message about samples that cannot be gathered. -/
def GatherFault.message : GatherFault → String
  | .pattern text => "invalid filter pattern " ++ Text.quoted text
  | .walk root => "walking " ++ root

/-- The samples in order of their names. -/
def inOrder (samples : List Sample) : List Sample :=
  samples.mergeSort fun a b => decide (a.name ≤ b.name)

/-- The samples whose names satisfy a condition, or with `exclude` those whose names do
not. -/
def select (keep : String → Bool) (exclude : Bool) (samples : List Sample) : List Sample :=
  samples.filter fun s => keep s.name != exclude

/-- The condition on names that a pattern stands for, if it is well formed. -/
abbrev PatternReader := String → Option (String → Bool)

/-- The samples of a walk that a pattern selects, in order of their names. -/
def gatherWalk (read : PatternReader) (root : List UInt8) (walk : Option Walk) (pattern : String)
    (exclude : Bool) : Except GatherFault (List Sample) :=
  match read pattern with
  | none => .error (.pattern pattern)
  | some keep =>
    match walk with
    | none => .error (.walk (lossy root))
    | some w => .ok (inOrder (select keep exclude (w.samples root)))

/-- The samples at or below a path in a tree of files that a pattern selects, in order of
their names. -/
def gatherBy (read : PatternReader) (t : FileTree) (root pattern : String) (exclude : Bool) :
    Except GatherFault (List Sample) :=
  gatherWalk read (bytesOf root) (walkFrom t root) pattern exclude

/-- A pattern selects the names in which it is found anywhere. -/
def readPattern : PatternReader := fun pattern =>
  (Pattern.parse? pattern).map Pattern.isFoundIn

/-- The samples at or below a path, selected by a pattern that is found in their names. -/
def gather : (t : FileTree) → (root pattern : String) → (exclude : Bool) →
    Except GatherFault (List Sample) :=
  gatherBy readPattern

end TreeSmith.Suite
