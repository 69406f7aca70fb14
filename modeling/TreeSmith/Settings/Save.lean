import TreeSmith.Settings.Basic
import TreeSmith.Toml.Writer

/-!
# Saving settings

Settings as a text of two tables, with the policies of families in order of their
names.

## Main definitions

* `Settings.saved` — the text.
-/

namespace TreeSmith

/-- A line with a value under a key. -/
def settingLine (key value : String) : String :=
  Toml.keyText key ++ " = " ++ Toml.valueText value ++ "\n"

/-- The table of the settings that are not for single families. -/
def GeneratorSettings.saved (g : GeneratorSettings) : String :=
  "[generator]\n" ++ settingLine "policy" g.policy.name ++
    (match g.template with
    | some path => settingLine "template" path
    | none => "") ++
    settingLine "module_root" g.moduleRoot

/-- The table of the policies of single families. -/
def FamilyPolicies.saved (p : FamilyPolicies) : String :=
  "[families]\n" ++ String.join (p.entries.map fun e => settingLine e.1 e.2.name)

/-- The text of all settings. -/
def Settings.saved (s : Settings) : String :=
  s.generator.saved ++ "\n" ++ s.families.saved

end TreeSmith
