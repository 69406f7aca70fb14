import TreeSmith.Files.Tree
import TreeSmith.Settings.Basic
import TreeSmith.Settings.Layer
import TreeSmith.Toml.Reader

/-!
# Loading settings

Settings from files in the usual places, a file that the user names, and the
environment, each on top of the ones before.  Files of settings are TOML.  Other formats
are left out: a file that is there under a name without the extension of TOML is not read as
anything else, and no other extension is tried on a path that names no file.

## Main definitions

* `Settings.ofTable?` — the settings of the merged layers.
* `findFile?` — the path of the file that a path names, perhaps without its extension.
* `SettingsFault`, `Settings.load` — all layers.
-/

namespace TreeSmith

/-! ### From layers to settings -/

namespace Setting

/-- The text that a setting stands for. -/
def text? : Setting → Option String
  | .text s => some s
  | .scalar s => some s.text
  | _ => none

/-- The policy of a name in any case. -/
def policyNamed? (s : String) : Option Ownership :=
  Ownership.ofName? (Text.lowercase s)

/-- The policy that a setting stands for: its name, or a table with only that key. -/
def policy? : Setting → Option Ownership
  | .text s => policyNamed? s
  | .table [(key, _)] => policyNamed? key
  | _ => none

/-- The text that a setting stands for, if it is set. -/
def optionalText? : Setting → Option (Option String)
  | .unset => some none
  | v => (text? v).map some

end Setting

/-- The value of a setting that may be left out. -/
def settingOr {α : Type} (default : α) (read : Setting → Option α) : Option Setting → Option α
  | none => some default
  | some v => read v

/-- The settings that are not for single families, from what stands under their
keys. -/
def GeneratorSettings.ofParts? (policy template moduleRoot : Option Setting) :
    Option GeneratorSettings := do
  let policy ← settingOr default.policy Setting.policy? policy
  let template ← settingOr none Setting.optionalText? template
  let moduleRoot ← settingOr default.moduleRoot Setting.text? moduleRoot
  return ⟨policy, template, moduleRoot⟩

/-- The settings that are not for single families: a table, or a list in order. -/
def GeneratorSettings.ofSetting? : Setting → Option GeneratorSettings
  | .table es =>
    ofParts? (Setting.find? "policy" es) (Setting.find? "template" es)
      (Setting.find? "module_root" es)
  | .list vs => ofParts? vs[0]? vs[1]? vs[2]?
  | _ => none

/-- The policies of single families. -/
def FamilyPolicies.ofSetting? : Setting → Option FamilyPolicies
  | .table es => do
    let entries ← es.mapM fun (key, v) => do
      let policy ← v.policy?
      return (key, policy)
    return .ofList entries
  | _ => none

/-- The settings of the merged layers. -/
def Settings.ofTable? (es : List (String × Setting)) : Option Settings := do
  let generator ← settingOr .default GeneratorSettings.ofSetting? (Setting.find? "generator" es)
  let families ← settingOr .empty FamilyPolicies.ofSetting? (Setting.find? "families" es)
  return ⟨generator, families⟩

/-! ### From files to layers -/

/-- The extension of files with settings. -/
def settingsExtension : List Char := ".toml".toList

/-- The name ends in the extension, with something before it. -/
def hasSettingsExtension (name : String) : Bool :=
  settingsExtension.isSuffixOf name.toList && settingsExtension.length < name.toList.length

/-- The path with the extension added to its last name, if it has one. -/
def withExtension? (path : String) : Option String := do
  let names := withoutStays (Text.split '/' path)
  let last ← names.getLast?
  if last = ".." then none
  return String.intercalate "/" names ++ ".toml"

/-- The path of the file that a path names: the file itself if it has the right
extension, or else the file with the extension added. -/
def findFile? (t : FileTree) (path : String) : Option String :=
  if t.isFileAt path then
    if ((Text.split '/' path).getLast?.any hasSettingsExtension) then some path else none
  else (withExtension? path).filter t.isFileAt

/-- Why settings cannot be loaded. -/
inductive SettingsFault
  /-- The file that the user names is not there, or is no text. -/
  | missing
  /-- A file is not well formed. -/
  | malformed
  /-- A setting has a value that it cannot have. -/
  | wrongValue
  deriving DecidableEq, Repr

/-- The layer of a text. -/
def textLayer (text : String) : Except SettingsFault (List (String × Setting)) :=
  match Toml.parse? text with
  | none => .error .malformed
  | some table => .ok (Setting.ofTomlEntries table)

/-- A text without a byte order mark at its start. -/
def withoutMark (s : String) : String :=
  match s.toList with
  | c :: cs => if c.toNat = 0xFEFF then String.ofList cs else s
  | [] => s

/-- The text of the file that a path names, unless there is none. -/
def settingsText? (t : FileTree) (path : String) : Option String :=
  (findFile? t path).bind fun path => ((t.readAt path).toOption).map withoutMark

/-- The layer of a file that need not be there; one that is no text counts as not
there. -/
def optionalLayer (t : FileTree) (path : String) :
    Except SettingsFault (List (String × Setting)) :=
  match settingsText? t path with
  | some text => textLayer text
  | none => .ok []

/-- The layer of a file that must be there. -/
def requiredLayer (t : FileTree) (path : String) :
    Except SettingsFault (List (String × Setting)) :=
  match settingsText? t path with
  | some text => textLayer text
  | none => .error .missing

/-- The layer of the user's own file, if there is something at its path. -/
def userLayer (t : FileTree) (path : String) : Except SettingsFault (List (String × Setting)) :=
  match t.findAt path with
  | .ok _ => optionalLayer t path
  | .error _ => .ok []

/-- Where settings come from. -/
structure SettingsSources where
  /-- The path of the user's folder for settings. -/
  userFolder : String
  /-- The file that the user names. -/
  explicit : Option String
  /-- The environment. -/
  environment : List (String × String)

/-- The paths of settings in the working folder. -/
def settingsPaths : List String :=
  ["astgen.toml", ".astgen.toml", "config/astgen.toml"]

/-- The path of settings in the user's folder. -/
def userSettingsPath (folder : String) : String :=
  joinPath folder "astgen/astgen.toml"

/-- All layers from the bottom up. -/
def SettingsSources.layers (s : SettingsSources) (t : FileTree) :
    Except SettingsFault (List (List (String × Setting))) := do
  let usual ← settingsPaths.mapM (optionalLayer t)
  let own ← userLayer t (userSettingsPath s.userFolder)
  let named ← s.explicit.toList.mapM (requiredLayer t)
  return usual ++ [own] ++ named ++ [Setting.environmentLayer s.environment]

/-- The layers as one table. -/
def mergeLayers (layers : List (List (String × Setting))) : List (String × Setting) :=
  (layers.foldl Setting.addLayer (.table [])).entries

/-- The settings from all their sources. -/
def Settings.load (t : FileTree) (s : SettingsSources) : Except SettingsFault Settings := do
  let layers ← s.layers t
  match Settings.ofTable? (mergeLayers layers) with
  | some settings => .ok settings
  | none => .error .wrongValue

end TreeSmith
