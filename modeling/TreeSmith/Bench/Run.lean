import TreeSmith.Bench.Stats
import TreeSmith.Decimal.Layout
import TreeSmith.Suite.Report

/-!
# Benchmarks

Each sample is run a number of times, and the statistics of the timings are printed.
The benchmark stops when the interpreter cannot be started.

## Main definitions

* `BenchReport` — the timings of a sample.
* `BenchRun`, `runBench` — all samples.
-/

namespace TreeSmith.Bench

open Suite (Interpreter Sample line)

/-- The timings of a sample. -/
structure BenchReport where
  /-- The name of the sample. -/
  name : String
  /-- The seconds that each run took, by their bits. -/
  durations : List UInt64
  /-- Their statistics. -/
  stats : Stats
  deriving DecidableEq, Repr

/-- The reports up to the end of a benchmark or to a run that could not be started,
and what is printed until then. -/
structure BenchRun where
  /-- The reports in order. -/
  reports : List BenchReport
  /-- What is printed. -/
  out : String
  /-- Every run could be started. -/
  completed : Bool
  deriving DecidableEq, Repr

/-- The message when no runs are asked for. -/
def noIterations : String := "at least one iteration is required"

/-- Seconds as they are printed: three places, and at least four characters. -/
def secondsText (bits : UInt64) : String :=
  let s := fixedText 3 (.ofBits bits)
  String.ofList (List.replicate (4 - s.toList.length) ' ') ++ s ++ " s"

/-- A line of the results. -/
def statLine (label : String) (bits : UInt64) : String :=
  line ("* " ++ label ++ " = " ++ secondsText bits)

/-- What is printed about the statistics of a sample. -/
def Stats.text (s : Stats) : String :=
  line "Results:" ++ statLine "Min." s.min ++ statLine "Mean" s.mean ++ statLine "Med." s.median ++
    statLine "Max." s.max ++ statLine "Std." s.stdDev

/-- Runs a sample from the iteration `done + 1` on, `left` times: the timings, what is
printed, and whether every run could be started. -/
def iterate {World : Type} (i : Interpreter World) (path : String) (verbose : Bool)
    (total : Nat) : (left done : Nat) → World → (List UInt64 × String × Bool) × World
  | 0, _, w => (([], "", true), w)
  | left + 1, done, w =>
    let announced :=
      if verbose then "  - Iteration " ++ toString (done + 1) ++ " of " ++ toString total ++ ":"
      else ""
    match i.run path w with
    | (none, w) => (([], announced, false), w)
    | (some e, w) =>
      let timing := if verbose then line (" " ++ secondsText e.seconds) else ""
      let ((durations, out, completed), w) := iterate i path verbose total left (done + 1) w
      ((e.seconds :: durations, announced ++ timing ++ out, completed), w)

/-- Runs samples in order, each so many times. -/
def runBench {World : Type} (i : Interpreter World) (verbose : Bool) (iterations : Nat) :
    List Sample → World → BenchRun × World
  | [], w => (⟨[], "", true⟩, w)
  | s :: more, w =>
    let heading := line ("Running benchmark file '" ++ s.name ++ "'...")
    let ((durations, out, completed), w) :=
      iterate i s.pathText verbose iterations iterations 0 w
    match completed, Stats.ofSamples? durations with
    | true, some stats =>
      let (rest, w) := runBench i verbose iterations more w
      (⟨⟨s.name, durations, stats⟩ :: rest.reports, heading ++ out ++ stats.text ++ rest.out,
        rest.completed⟩, w)
    | _, _ => (⟨[], heading ++ out, false⟩, w)

end TreeSmith.Bench
