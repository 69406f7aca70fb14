import TreeSmith.Bench.Run
import TreeSmith.CommandLine.Arguments

/-!
# The commands that test and time an interpreter

Runs an interpreter over samples, as a suite of tests or as a benchmark.

## Main definitions

* `HarnessOptions` — what both commands are asked to do.
* `HarnessCommand`, `HarnessCommand.read?` — the commands.
* `HarnessCommand.run` — what a command prints.
-/

namespace TreeSmith.CommandLine

open Suite (Interpreter GatherFault gather runSuite)
open Bench (runBench)

/-- What both commands are asked to do. -/
structure HarnessOptions where
  /-- The interpreter. -/
  interpreter : String
  /-- The pattern that selects samples. -/
  pattern : String
  /-- Print details. -/
  verbose : Bool
  /-- Take the samples that the pattern does not select. -/
  exclude : Bool
  /-- The folder of the samples. -/
  folder : String
  deriving DecidableEq, Repr

/-- A command. -/
inductive HarnessCommand
  /-- Tests the interpreter, perhaps without regard to its status. -/
  | test (o : HarnessOptions) (ignoreStatus : Bool)
  /-- Times the interpreter so many times on each sample. -/
  | bench (o : HarnessOptions) (iterations : Nat)
  deriving DecidableEq, Repr

namespace HarnessCommand

/-- The options of both commands. -/
def commonSpecs : List OptionSpec :=
  [⟨"verbose", some 'v', false⟩, ⟨"exclude", some 'x', false⟩, ⟨"dir", none, true⟩]

/-- The options of the command that tests. -/
def testSpecs : List OptionSpec :=
  ⟨"ignore-retval", some 'i', false⟩ :: commonSpecs

/-- The options of the command that times. -/
def benchSpecs : List OptionSpec :=
  ⟨"iterations", some 'n', true⟩ :: commonSpecs

/-- What both commands are asked to do: an interpreter and perhaps a pattern. -/
def commonOptions? (a : Arguments) (folder : String) : Option HarnessOptions := do
  let (interpreter, pattern) ←
    match a.positional with
    | [interpreter] => some (interpreter, "")
    | [interpreter, pattern] => some (interpreter, pattern)
    | _ => none
  let interpreter ← nonEmpty? (some interpreter)
  let given ← nonEmpty? (a.value? "dir")
  return ⟨interpreter.getD "", pattern, a.has "verbose", a.has "exclude", given.getD folder⟩

/-- How many times to run a sample: digits, perhaps after a plus sign. -/
def iterations? : Option String → Option Nat
  | none => some 100
  | some s =>
    let digits :=
      match s.toList with
      | '+' :: cs => cs
      | cs => cs
    let n := digitsValue digits
    if digits.isEmpty || !digits.all Char.isDigit || Nat.pow 2 64 ≤ n then none else some n

/-- The command that the words of a command line ask for. -/
def read? : List String → Option HarnessCommand
  | "test" :: words => do
    let a ← Arguments.read? testSpecs words
    let o ← commonOptions? a "tests/lox"
    return .test o (a.has "ignore-retval")
  | "bench" :: words => do
    let a ← Arguments.read? benchSpecs words
    let o ← commonOptions? a "benchmarks"
    let n ← iterations? (a.value? "iterations")
    return .bench o n
  | _ => none

/-- What a command asks for besides its own. -/
def options : HarnessCommand → HarnessOptions
  | .test o _ => o
  | .bench o _ => o

/-- The message about samples that cannot be gathered, with its cause. -/
def gatherMessage (fault : GatherFault) : String :=
  match fault with
  | .pattern _ => fault.message
  | .walk _ => fault.message ++ ": IO error"

/-- The message about an interpreter that cannot be started. -/
def startMessage (interpreter : String) : String :=
  "failed to run " ++ interpreter

/-- Does what is asked for and prints what comes of it. -/
def run {World : Type} (c : HarnessCommand) (i : Interpreter World) (t : FileTree) (w : World) :
    Finish × World :=
  let o := c.options
  match gather t o.folder o.pattern o.exclude with
  | .error fault => (.failure "" (gatherMessage fault), w)
  | .ok samples =>
    match c with
    | .test _ ignoreStatus =>
      let (r, w) := runSuite i t ⟨o.verbose, ignoreStatus⟩ samples w
      if r.completed then (⟨r.state.summary.exitCode, r.state.out, ""⟩, w)
      else (.failure r.state.out (startMessage i.path), w)
    | .bench _ 0 => (.failure "" Bench.noIterations, w)
    | .bench _ (n + 1) =>
      let (b, w) := runBench i o.verbose (n + 1) samples w
      if b.completed then (⟨0, b.out, ""⟩, w) else (.failure b.out (startMessage i.path), w)

end HarnessCommand

end TreeSmith.CommandLine
