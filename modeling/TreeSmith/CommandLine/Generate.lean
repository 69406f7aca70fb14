import TreeSmith.CommandLine.Arguments
import TreeSmith.Generator
import TreeSmith.Registry.BuiltIn
import TreeSmith.Settings.Load

/-!
# The command that generates modules

Reads the settings, takes the built-in families or those of a document, and writes
their modules into a folder or compares them with it.

## Main definitions

* `GenerateOptions`, `GenerateOptions.read?` — what the command is asked to do.
* `Surroundings` — what it finds besides files.
* `generate` — the command.
-/

namespace TreeSmith.CommandLine

/-- What the command is asked to do. -/
structure GenerateOptions where
  /-- The folder of the modules. -/
  folder : String
  /-- The document with the families. -/
  schema : Option String
  /-- The file with settings. -/
  config : Option String
  /-- The policy of the run. -/
  policy : Option Ownership
  /-- Compare and write nothing. -/
  check : Bool
  deriving DecidableEq, Repr

namespace GenerateOptions

/-- The options that the command knows. -/
def specs : List OptionSpec :=
  [⟨"schema", some 's', true⟩, ⟨"config", some 'c', true⟩, ⟨"policy", some 'p', true⟩,
    ⟨"check", none, false⟩]

/-- The policy that is asked for, if it is one. -/
def policy? : Option String → Option (Option Ownership)
  | none => some none
  | some word => (Ownership.ofWord? word).map some

/-- What the words of a command line ask for. -/
def read? (words : List String) : Option GenerateOptions := do
  let a ← Arguments.read? specs words
  match a.positional with
  | [folder] => do
    let folder ← nonEmpty? (some folder)
    let schema ← nonEmpty? (a.value? "schema")
    let policy ← policy? (a.value? "policy")
    return ⟨folder.getD "", schema, a.value? "config", policy, a.has "check"⟩
  | _ => none

end GenerateOptions

/-- What a command finds besides files. -/
structure Surroundings where
  /-- The user's folder for settings. -/
  userFolder : String
  /-- The variables of the environment. -/
  environment : List (String × String)

/-- Why the command fails. -/
inductive GenerateFault
  /-- The settings cannot be loaded. -/
  | settings (fault : SettingsFault)
  /-- The document cannot be loaded. -/
  | schema (path : String) (fault : GeneratorFault)
  /-- The generator fails. -/
  | generator (fault : GeneratorFault)
  deriving DecidableEq, Repr

/-- The message about a failure. -/
def GenerateFault.message : GenerateFault → String
  | .settings _ => "loading configuration"
  | .schema path fault => "loading schema " ++ path ++ ": " ++ fault.message
  | .generator fault => fault.message

/-- The generator that the command uses. -/
def GenerateOptions.generator (o : GenerateOptions) (s : Surroundings) (t : FileTree) :
    Except GenerateFault Generator := do
  let settings ← (Settings.load t ⟨s.userFolder, o.config, s.environment⟩).mapError .settings
  let settings := o.policy.elim settings settings.withPolicy
  let registry ←
    match o.schema with
    | some path => (Registry.load t path).mapError (.schema path)
    | none => Registry.builtIn.mapError fun fault => .generator (.schema fault)
  (Generator.ofSettings t registry settings).mapError .generator

/-- What is printed about an artifact that differs from its file. -/
def driftText (d : Drift) : String :=
  (match d.actual with
  | some actual =>
    "⚠️  " ++ d.fileName ++ " is out of date (" ++ actual.short ++ " on disk, " ++
      d.expected.short ++ " generated)\n"
  | none => "⚠️  " ++ d.fileName ++ " is missing\n") ++
    d.diff

/-- What is printed about a comparison. -/
def checkFinish (families : Nat) (drifts : List Drift) : Finish :=
  if drifts.isEmpty then ⟨0, "✅ " ++ toString families ++ " artifacts up to date\n", ""⟩
  else ⟨1, String.join (drifts.map driftText), ""⟩

/-- What is printed about artifacts that were written. -/
def writeFinish (folder : String) (artifacts : List Artifact) : Finish :=
  let lineOf (a : Artifact) := "📝 " ++ a.family ++ " -> " ++ a.pathIn folder ++ "\n"
  ⟨0, String.join (artifacts.map lineOf), ""⟩

/-- Does what is asked for: the files after it and what is printed. -/
def GenerateOptions.run (o : GenerateOptions) (s : Surroundings) (t : FileTree) :
    FileTree × Finish :=
  match o.generator s t with
  | .error fault => (t, .failure "" fault.message)
  | .ok g =>
    if o.check then
      match g.check t o.folder with
      | .error fault => (t, .failure "" (GenerateFault.generator fault).message)
      | .ok drifts => (t, checkFinish g.registry.families.length drifts)
    else
      match g.write t o.folder with
      | (t, .error fault) => (t, .failure "" (GenerateFault.generator fault).message)
      | (t, .ok artifacts) => (t, writeFinish o.folder artifacts)

/-- The command, unless its words ask for nothing that it can do. -/
def generate (words : List String) (s : Surroundings) (t : FileTree) :
    Option (FileTree × Finish) :=
  (GenerateOptions.read? words).map fun o => o.run s t

end TreeSmith.CommandLine
