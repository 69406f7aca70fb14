import TreeSmith.Schema.Json
import TreeSmith.Settings.Basic

/-!
# Settings as JSON

Settings from and to a JSON value, in the strict shape of documents.

## Main definitions

* `Settings.ofJson?`, `Settings.toJson`.
-/

namespace TreeSmith

/-- Policies by family: an object with a policy under each key. -/
def FamilyPolicies.ofJson? : Json → Option FamilyPolicies
  | .object members => do
    let entries ← members.mapM fun (key, value) => do
      let key ← key
      let policy ← Ownership.ofJson? value
      return (key, policy)
    return .ofList entries
  | _ => none

/-- The settings that are not for single families. -/
def GeneratorSettings.ofJson? (j : Json) : Option GeneratorSettings :=
  match j.fields? ["policy", "template", "module_root"] with
  | some [policy, template, moduleRoot] => do
    let policy ← Json.withDefault default.policy Ownership.ofJson? policy
    let template ← Json.nullable Json.string? template
    let moduleRoot ← Json.withDefault default.moduleRoot Json.string? moduleRoot
    return ⟨policy, template, moduleRoot⟩
  | _ => none

/-- All settings; what is left out has its default. -/
def Settings.ofJson? (j : Json) : Option Settings :=
  match j.fields? ["generator", "families"] with
  | some [generator, families] => do
    let generator ← Json.withDefault .default GeneratorSettings.ofJson? generator
    let families ← Json.withDefault .empty FamilyPolicies.ofJson? families
    return ⟨generator, families⟩
  | _ => none

/-- The settings; an absent template is left out. -/
def Settings.toJson (s : Settings) : Json :=
  .record [("generator", .record ([("policy", s.generator.policy.toJson)] ++
      (s.generator.template.map fun t => ("template", Json.string t)).toList ++
      [("module_root", .string s.generator.moduleRoot)])),
    ("families", .record (s.families.entries.map fun (key, policy) => (key, policy.toJson)))]

end TreeSmith
