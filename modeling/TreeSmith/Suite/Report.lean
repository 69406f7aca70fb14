import TreeSmith.Suite.Execution
import TreeSmith.Suite.Sample

/-!
# Running a suite

Samples are gone through in order.  A sample without a usable header is skipped, and any
other one is run once and judged by its header.  Three counts and what is printed are
carried from sample to sample.  The suite stops when the interpreter cannot be started.

## Main definitions

* `SuiteOptions` — what is asked for.
* `Summary` — how many samples ran, failed and were skipped.
* `SuiteState` — the counts and what has been printed, with one operation for each thing
  that can come of a sample.
* `SuiteRun`, `runSamples`, `runSuite` — a whole suite.
-/

namespace TreeSmith.Suite

/-- What a suite is asked for. -/
structure SuiteOptions where
  /-- Print the details of failures. -/
  verbose : Bool
  /-- Take no regard to the status of a run. -/
  ignoreStatus : Bool
  deriving DecidableEq, Repr

/-- Why a file cannot be read as text. -/
def unreadable : FileFault → String
  | .missing => "No such file or directory (os error 2)"
  | .notFolder => "Not a directory (os error 20)"
  | .isFolder => "Is a directory (os error 21)"
  | .notText => "stream did not contain valid UTF-8"
  | .tooLong => "File name too long (os error 36)"
  | .badName => "file name contained an unexpected NUL byte"

/-- The header of a sample, or the reason to skip it. -/
def sampleHeader (t : FileTree) (s : Sample) : Except String Header :=
  match t.readAt (s.pathText) with
  | .error fault => .error (unreadable fault)
  | .ok source => (Header.parse source).mapError (·.message)

/-! ### Counting -/

/-- How many samples ran, failed and were skipped. -/
structure Summary where
  /-- The samples that were run. -/
  ran : Nat
  /-- The samples whose run was not as expected. -/
  failed : Nat
  /-- The samples that were not run. -/
  skipped : Nat
  deriving DecidableEq, Repr

/-- The exit code for a summary: the number of failures, as far as it fits a byte. -/
def Summary.exitCode (s : Summary) : Nat := min s.failed 255

/-! ### Printing -/

/-- A line of text. -/
def line (s : String) : String := s ++ "\n"

/-- Lines set in under a heading. -/
def block (heading : String) (items : List String) : String :=
  line heading ++ String.join (items.map fun s => line ("    " ++ s))

/-- The line about a sample that is skipped. -/
def skipLine (path reason : String) : String :=
  line ("Unable to parse test file \"" ++ path ++ "\" (" ++ reason ++ "). Skipping...")

/-- The line with the result of a sample. -/
def resultLine (name color result : String) : String :=
  line ("Test " ++ Text.padEnd 50 '.' name ++ color ++ " " ++ result ++ "\x1b[0m")

/-- What is printed about a failure in detail. -/
def failureDetail (h : Header) (actual : Outcome) : String :=
  block "-- Expected output:" h.output ++ block "-- Actual output:" actual.lines ++
    block "-- Expected return value:" [toString h.status] ++
    block "-- Actual return value:" [toString actual.status] ++ line ""

/-- What is printed about a failure. -/
def failureText (verbose : Bool) (name : String) (h : Header) (actual : Outcome) : String :=
  let result := resultLine name "\x1b[31m" "FAILED"
  if verbose then line "" ++ result ++ failureDetail h actual else result

/-- What is printed at the end. -/
def Summary.text (s : Summary) : String :=
  line "" ++
    line ("Ran " ++ toString s.ran ++ " tests, of which " ++ toString s.failed ++ " failed.")

/-! ### Going through samples -/

/-- The counts of a suite and what it has printed. -/
structure SuiteState where
  /-- The counts. -/
  summary : Summary
  /-- What has been printed. -/
  out : String
  deriving DecidableEq, Repr

namespace SuiteState

/-- Before the first sample. -/
def initial : SuiteState := ⟨⟨0, 0, 0⟩, ""⟩

/-- One more text is printed. -/
def print (st : SuiteState) (text : String) : SuiteState :=
  { st with out := st.out ++ text }

/-- A sample is skipped. -/
def skip (st : SuiteState) (s : Sample) (reason : String) : SuiteState :=
  let st := st.print (skipLine (s.pathText) reason)
  { st with summary.skipped := st.summary.skipped + 1 }

/-- A sample is run. -/
def start (st : SuiteState) : SuiteState :=
  { st with summary.ran := st.summary.ran + 1 }

/-- The run of a sample is judged. -/
def judge (o : SuiteOptions) (st : SuiteState) (s : Sample) (h : Header) (actual : Outcome) :
    SuiteState :=
  if h.isMetBy actual o.ignoreStatus then st.print (resultLine s.name "\x1b[32m" "PASSED")
  else
    let st := { st with summary.failed := st.summary.failed + 1 }
    st.print (failureText o.verbose s.name h actual)

end SuiteState

/-- A suite up to its end, or up to a run that could not be started. -/
structure SuiteRun where
  /-- The counts and what was printed until then. -/
  state : SuiteState
  /-- Every run could be started. -/
  completed : Bool
  deriving DecidableEq, Repr

/-- Goes through samples in order. -/
def runSamples {World : Type} (i : Interpreter World) (t : FileTree) (o : SuiteOptions) :
    List Sample → SuiteState → World → SuiteRun × World
  | [], st, w => (⟨st, true⟩, w)
  | s :: more, st, w =>
    match sampleHeader t s with
    | .error reason => runSamples i t o more (st.skip s reason) w
    | .ok h =>
      match i.run (s.pathText) w with
      | (none, w) => (⟨st.start, false⟩, w)
      | (some e, w) => runSamples i t o more (st.start.judge o s h e.outcome) w

/-- Goes through samples in order, and prints the counts at the end. -/
def runSuite {World : Type} (i : Interpreter World) (t : FileTree) (o : SuiteOptions)
    (samples : List Sample) (w : World) : SuiteRun × World :=
  let (r, w) := runSamples i t o samples .initial w
  if r.completed then ({ r with state := r.state.print r.state.summary.text }, w) else (r, w)

end TreeSmith.Suite
