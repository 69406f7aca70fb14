import TreeSmith.Decimal.Reading
import TreeSmith.Text.Lines
import TreeSmith.Text.Quoted

/-!
# Headers of test files

A test file starts with comment lines.  Each but the last holds a line of output
that a run is expected to write, and the last holds the expected exit code.

## Main definitions

* `Header`, `Header.parse` — what a header says.
* `HeaderFault`, `HeaderFault.message` — why a header cannot be used.
-/

namespace TreeSmith.Suite

/-- What a header says about a run. -/
structure Header where
  /-- The lines of output. -/
  output : List String
  /-- The exit code. -/
  status : Nat
  deriving DecidableEq, Repr

/-- Why a header cannot be used. -/
inductive HeaderFault
  /-- There is no comment line. -/
  | missing
  /-- A line before the last, counted from one, says nothing. -/
  | emptyLine (number : Nat)
  /-- The last line is no exit code. -/
  | exitCode (line : String)
  deriving DecidableEq, Repr

/-- The message about a header. -/
def HeaderFault.message : HeaderFault → String
  | .missing => "file has no header comment"
  | .emptyLine number => "header line " ++ toString number ++ " is empty"
  | .exitCode line => "last header line " ++ Text.quoted line ++ " is not an exit code"

/-- What a comment line says, if it is one. -/
def comment? : List Char → Option (List Char)
  | '/' :: '/' :: rest => some rest
  | _ => none

/-- What the comment lines at the start of some lines say. -/
def leadingComments : List (List Char) → List (List Char)
  | [] => []
  | line :: more =>
    match comment? line with
    | some said => said :: leadingComments more
    | none => []

/-- The largest exit code. -/
def maxStatus : Nat := 2147483647

/-- The exit code that a comment says: spaces, then digits up to the end. -/
def readStatus? (said : List Char) : Option Nat :=
  let digits := said.dropWhile (· == ' ')
  let n := digitsValue digits
  if digits.isEmpty || !digits.all Char.isDigit || maxStatus < n then none else some n

/-- The lines of output that comments say, counted from `number`; a comment that says
nothing at all is a fault. -/
def readOutput (number : Nat) : List (List Char) → Except HeaderFault (List String)
  | [] => .ok []
  | [] :: _ => .error (.emptyLine number)
  | said :: more =>
    match readOutput (number + 1) more with
    | .error fault => .error fault
    | .ok lines => .ok (String.ofList (Text.trim said) :: lines)

/-- The header of a test file. -/
def Header.parse (source : String) : Except HeaderFault Header :=
  let comments := leadingComments (Text.lines source.toList)
  match comments.getLast? with
  | none => .error .missing
  | some last =>
    match readOutput 1 comments.dropLast with
    | .error fault => .error fault
    | .ok output =>
      match readStatus? last with
      | none => .error (.exitCode ("//" ++ String.ofList last))
      | some status => .ok ⟨output, status⟩

end TreeSmith.Suite
