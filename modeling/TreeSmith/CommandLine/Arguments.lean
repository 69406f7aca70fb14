/-!
# Arguments of a command

The words of a command line as options and positional words.  An option has a long
name after two hyphens and perhaps a letter after one; it may take a value, which
follows an equals sign or is the next word.  Letters may be joined, and two hyphens
alone end the options.

## Main definitions

* `OptionSpec` — an option that a command knows.
* `Arguments`, `Arguments.read?` — the words of a command line.
-/

namespace TreeSmith.CommandLine

/-- An option that a command knows. -/
structure OptionSpec where
  /-- The long name. -/
  long : String
  /-- The letter. -/
  short : Option Char
  /-- A value follows it. -/
  takesValue : Bool
  deriving DecidableEq, Repr

/-- An option as it is given. -/
structure Given where
  /-- The long name of the option. -/
  name : String
  /-- The value, empty for an option without one. -/
  value : String
  deriving DecidableEq, Repr

/-- The words of a command line. -/
structure Arguments where
  /-- The options in order. -/
  options : List Given
  /-- The positional words in order. -/
  positional : List String
  deriving DecidableEq, Repr

namespace Arguments

/-- No words. -/
def empty : Arguments := ⟨[], []⟩

/-- The words with options in front. -/
def withOptions (given : List Given) (a : Arguments) : Arguments :=
  { a with options := given ++ a.options }

/-- The words with a positional one in front. -/
def withPositional (word : String) (a : Arguments) : Arguments :=
  { a with positional := word :: a.positional }

/-- The value of an option. -/
def value? (a : Arguments) (name : String) : Option String :=
  (a.options.find? (·.name == name)).map (·.value)

/-- An option is given. -/
def has (a : Arguments) (name : String) : Bool :=
  a.options.any (·.name == name)

/-- No option is given twice. -/
def isUnambiguous (a : Arguments) : Bool :=
  decide (a.options.map (·.name)).Nodup

end Arguments

/-- A word that starts an option. -/
def isOptionWord (word : String) : Bool :=
  match word.toList with
  | '-' :: _ :: _ => true
  | _ => false

/-- A long name and the value after its equals sign, if it has one. -/
def splitEquals (cs : List Char) : String × Option String :=
  match cs.dropWhile (· != '=') with
  | _ :: value => (String.ofList (cs.takeWhile (· != '=')), some (String.ofList value))
  | [] => (String.ofList cs, none)

/-- What is given by a word with options: those that are complete, and the name of one
that still wants a value. -/
abbrev Pending := List Given × Option String

/-- An option by its long name. -/
def readLong (specs : List OptionSpec) (cs : List Char) : Option Pending :=
  let (name, value) := splitEquals cs
  match specs.find? (·.long == name), value with
  | none, _ => none
  | some spec, some v => if spec.takesValue then some ([⟨name, v⟩], none) else none
  | some spec, none => if spec.takesValue then some ([], some name) else some ([⟨name, ""⟩], none)

/-- Options by their letters; what follows the letter of an option with a value is
the value, with or without an equals sign. -/
def readShort (specs : List OptionSpec) : List Char → Option Pending
  | [] => some ([], none)
  | c :: cs =>
    match specs.find? (·.short == some c) with
    | none => none
    | some spec =>
      if spec.takesValue then
        match cs with
        | [] => some ([], some spec.long)
        | '=' :: value => some ([⟨spec.long, String.ofList value⟩], none)
        | value => some ([⟨spec.long, String.ofList value⟩], none)
      else (readShort specs cs).map fun (given, wanting) => (⟨spec.long, ""⟩ :: given, wanting)

/-- The options of a word that starts with a hyphen. -/
def readOptionWord (specs : List OptionSpec) (word : String) : Option Pending :=
  match word.toList with
  | '-' :: '-' :: cs => readLong specs cs
  | '-' :: cs => readShort specs cs
  | _ => none

/-- The words of a command line in order. -/
def readWords (specs : List OptionSpec) : List String → Option Arguments
  | [] => some .empty
  | "--" :: more => some ⟨[], more⟩
  | word :: more =>
    if isOptionWord word then
      match readOptionWord specs word with
      | none => none
      | some (given, none) => (readWords specs more).map (·.withOptions given)
      | some (given, some name) =>
        match more with
        | [] => none
        | value :: more =>
          if isOptionWord value then none
          else (readWords specs more).map (·.withOptions (given ++ [⟨name, value⟩]))
    else (readWords specs more).map (·.withPositional word)

/-- The words of a command line, with no option given twice. -/
def Arguments.read? (specs : List OptionSpec) (words : List String) : Option Arguments :=
  (readWords specs words).filter (·.isUnambiguous)

/-- A value that must not be empty, if it is given. -/
def nonEmpty? : Option String → Option (Option String)
  | none => some none
  | some s => if s = "" then none else some (some s)

/-- How a command ends. -/
structure Finish where
  /-- The exit code. -/
  code : Nat
  /-- What it prints. -/
  stdout : String
  /-- What it prints about errors. -/
  stderr : String
  deriving DecidableEq, Repr

/-- The end of a command that fails, with what it has printed before. -/
def Finish.failure (stdout message : String) : Finish :=
  ⟨1, stdout, "❌ Error: " ++ message ++ "\n"⟩

end TreeSmith.CommandLine
