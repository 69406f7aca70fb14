import TreeSmith.CommandLine.Generate

/-!
# The program

The command that generates modules, on the files of the working folder.  What the
command may look at is read first; the command itself is a function of that; and
what it has changed in the folder of the modules is written at the end.
-/

namespace TreeSmith.Program

open CommandLine (GenerateOptions Surroundings Finish)

/-- A location as a path from the same start as another path. -/
def pathLike (model : String) (loc : Location) : String :=
  if model.toList.head? = some '/' then "/" ++ loc.path else loc.path

/-- What an open file holds; what can be opened and not be read is a folder. -/
def entryOf (handle : IO.FS.Handle) : IO Entry := do
  try
    let bytes ← handle.readBinToEnd
    return .file (.ofBytes bytes)
  catch _ => return .folder

/-- What stands at a path. -/
def entryAt (path : String) : IO (Option Entry) := do
  try
    let handle ← IO.FS.Handle.mk path .read
    return some (← entryOf handle)
  catch _ => return none

/-- The place that a name leads to from another place. -/
def enter (loc : Location) (name : String) : Location :=
  if name = "" || name = "." then loc
  else if name = ".." then loc.dropLast
  else loc ++ [name]

/-- The places that a path leads through, after one of them. -/
def placesAfter (loc : Location) : List String → List Location
  | [] => []
  | name :: more => enter loc name :: placesAfter (enter loc name) more

/-- The tree with what stands at a path and at the places that it leads through. -/
def lookAt (t : FileTree) (path : String) : IO FileTree := do
  let mut t := t
  for place in placesAfter [] (Text.split '/' path) do
    if place ≠ [] then
      if let some entry ← entryAt (pathLike path place) then
        t := t.put place entry
  return t

/-- The tree with what stands at some paths. -/
def lookAtAll (t : FileTree) : List String → IO FileTree
  | [] => return t
  | path :: more => do lookAtAll (← lookAt t path) more

/-- A variable from its name and value with an equals sign between. -/
def variableOf (bytes : List UInt8) : String × String :=
  let text := (Text.lossyText ⟨bytes.toArray⟩).toList
  (String.ofList (text.takeWhile (· != '=')), String.ofList ((text.dropWhile (· != '=')).drop 1))

/-- The variables of the environment. -/
def environment : IO (List (String × String)) := do
  try
    let bytes ← IO.FS.readBinFile "/proc/self/environ"
    return (bytes.toList.splitOnP (· == 0)).map variableOf
  catch _ => return []

/-- The user's folder for settings. -/
def userFolder : IO String := do
  match ← IO.getEnv "XDG_CONFIG_HOME" with
  | some path => if path.startsWith "/" then return path
  | none => pure ()
  return ((← IO.getEnv "HOME").getD "") ++ "/.config"

/-- The paths at which a file with settings is looked for. -/
def candidates (path : String) : List String :=
  path :: (withExtension? path).toList

/-- The paths of the settings and of the document. -/
def inputPaths (o : GenerateOptions) (user : String) : List String :=
  (settingsPaths ++ [userSettingsPath user] ++ o.config.toList).flatMap candidates ++
    o.schema.toList

/-- The path of the template that the settings ask for. -/
def templatePath? (o : GenerateOptions) (s : Surroundings) (t : FileTree) : Option String :=
  match Settings.load t ⟨s.userFolder, o.config, s.environment⟩ with
  | .ok settings => settings.generator.template
  | .error _ => none

/-- The paths of the modules and of the places where they are staged. -/
def outputPaths (o : GenerateOptions) (s : Surroundings) (t : FileTree) : List String :=
  match o.generator s t with
  | .error _ => []
  | .ok g =>
    g.registry.families.flatMap fun family =>
      let a : Artifact := ⟨family.name, ""⟩
      [joinPath o.folder a.fileName, joinPath o.folder a.stagingName]

/-- The files that the command may look at. -/
def lookAround (o : GenerateOptions) (user : String) (s : Surroundings) : IO FileTree := do
  let t ← lookAtAll .empty (inputPaths o user)
  let t ← lookAtAll t (templatePath? o s t).toList
  lookAtAll t (o.folder :: outputPaths o s t)

/-- Writes what the command has changed. -/
def writeBack (model : String) (before after : FileTree) : IO Unit := do
  for (loc, entry) in after.entries do
    if before.get? loc ≠ some entry then
      let path := pathLike model loc
      match entry with
      | .folder => IO.FS.createDirAll path
      | .file (.text s) =>
        let staged := pathLike model (loc.dropLast ++ ["." ++ loc.getLastD "" ++ ".tmp"])
        IO.FS.writeFile staged s
        IO.FS.rename staged path
      | .file (.binary bytes) => IO.FS.writeBinFile path ⟨bytes.toArray⟩
  for (loc, _) in before.entries do
    if (after.get? loc).isNone then IO.FS.removeFile (pathLike model loc)

/-- Does what is asked for on the files of the working folder. -/
def run (o : GenerateOptions) : IO Finish := do
  let user ← userFolder
  let s : Surroundings := ⟨user, ← environment⟩
  let before ← lookAround o user s
  let (after, finish) := o.run s before
  try
    writeBack o.folder before after
    return finish
  catch e => return .failure "" ("IO error: " ++ toString e)

/-- How the command is used. -/
def usage : String :=
  "Usage: generate-ast [--schema PATH] [--config PATH] [--policy POLICY] [--check] OUTPUT_DIR"

end TreeSmith.Program

/-- The program. -/
def main (words : List String) : IO UInt32 := do
  match TreeSmith.CommandLine.GenerateOptions.read? words with
  | none =>
    IO.eprintln TreeSmith.Program.usage
    return 2
  | some o =>
    let finish ← TreeSmith.Program.run o
    IO.print finish.stdout
    IO.eprint finish.stderr
    return finish.code.toUInt32
