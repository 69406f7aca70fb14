import TreeSmith.Suite.Header
import TreeSmith.Text.Utf8

/-!
# Runs of an interpreter

What a run of an interpreter on a file writes, how it ends, and whether that is what
the header of the file says.

## Main definitions

* `Ending`, `Execution` — one run.
* `Interpreter` — what runs on which file, in a world that a run may change.
* `Outcome`, `Execution.outcome` — what of a run is compared.
* `Header.isMetBy` — the verdict.
-/

namespace TreeSmith.Suite

/-- How a run ends. -/
inductive Ending
  /-- With an exit code. -/
  | code (n : UInt8)
  /-- By a signal. -/
  | signal (n : Nat)
  deriving DecidableEq, Repr

/-- The status of a run: its exit code, or its signal below zero. -/
def Ending.status : Ending → Int
  | .code n => n.toNat
  | .signal n => -n

/-- One run of an interpreter. -/
structure Execution where
  /-- What it writes. -/
  stdout : ByteArray
  /-- What it writes about errors. -/
  stderr : ByteArray
  /-- How it ends. -/
  ending : Ending
  /-- The bits of how many seconds it takes. -/
  seconds : UInt64

/-- An interpreter in a world: where it is found, and the run on the file at a path,
unless it cannot be started. -/
structure Interpreter (World : Type) where
  /-- The path of the interpreter. -/
  path : String
  /-- The run on a file, and the world after it. -/
  run : String → World → Option Execution × World

/-- What of a run is compared. -/
structure Outcome where
  /-- The lines that say something. -/
  lines : List String
  /-- The status. -/
  status : Int
  deriving DecidableEq, Repr

/-- The lines of both outputs that say something, one output right after the
other. -/
def collectedLines (stdout stderr : String) : List String :=
  Text.significantLines (stdout ++ stderr)

/-- What of a run is compared. -/
def Execution.outcome (e : Execution) : Outcome :=
  ⟨collectedLines (Text.lossyText e.stdout) (Text.lossyText e.stderr), e.ending.status⟩

/-- The outcome is what the header says, perhaps with another status. -/
def Header.isMetBy (h : Header) (o : Outcome) (ignoreStatus : Bool) : Bool :=
  o.lines == h.output && (ignoreStatus || o.status == h.status)

end TreeSmith.Suite
