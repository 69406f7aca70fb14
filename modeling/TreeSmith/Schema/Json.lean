import TreeSmith.Json.Reader
import TreeSmith.Schema

/-!
# Schemas as JSON

The shape in which documents are read and written.  Reading is strict: every value
has exactly the type that is wanted, and null stands only for an absent path or
ownership.  What has a default may be left out.

## Main definitions

* `Document.ofJson?`, `Document.toJson` — a document from and to a JSON value,
  with the same pair for each part of it.
* `Document.parse?` — a document from its text.
-/

namespace TreeSmith

namespace Json

/-- A field that has to be there. -/
def required {α : Type} (read : Json → Option α) : Option Json → Option α
  | none => none
  | some j => read j

/-- A field with a default. -/
def withDefault {α : Type} (default : α) (read : Json → Option α) : Option Json → Option α
  | none => some default
  | some j => read j

/-- A field that may be absent or null. -/
def nullable {α : Type} (read : Json → Option α) : Option Json → Option (Option α)
  | none => some none
  | some .null => some none
  | some j => (read j).map some

/-- A list of values of one kind. -/
def listOf {α : Type} (read : Json → Option α) : Json → Option (List α)
  | .array items => items.mapM read
  | _ => none

end Json

/-- A policy: its name, or an object with the name as its only key and null under
it. -/
def Ownership.ofJson? : Json → Option Ownership
  | .string s => ofName? s
  | .object [(some key, .null)] => ofName? key
  | _ => none

/-- A policy by its name. -/
def Ownership.toJson (policy : Ownership) : Json :=
  .string policy.name

/-- A field with type and name, and defaults for the rest. -/
def FieldSpec.ofJson? (j : Json) : Option FieldSpec :=
  match j.fields? ["type", "name", "tree", "repeated", "ownership"] with
  | some [type, name, tree, repeated, ownership] => do
    let type ← Json.required Json.string? type
    let name ← Json.required Json.string? name
    let tree ← Json.withDefault false Json.bool? tree
    let repeated ← Json.withDefault false Json.bool? repeated
    let ownership ← Json.nullable Ownership.ofJson? ownership
    return ⟨type, name, tree, repeated, ownership⟩
  | _ => none

/-- The members that an absent ownership leaves out. -/
def FieldSpec.toJson (f : FieldSpec) : Json :=
  .record ([("type", .string f.type), ("name", .string f.name), ("tree", .bool f.tree),
    ("repeated", .bool f.repeated)] ++
    (f.ownership.map fun policy => ("ownership", policy.toJson)).toList)

/-- A node type with its name, and no fields by default. -/
def NodeType.ofJson? (j : Json) : Option NodeType :=
  match j.fields? ["name", "fields"] with
  | some [name, fields] => do
    let name ← Json.required Json.string? name
    let fields ← Json.withDefault [] (Json.listOf FieldSpec.ofJson?) fields
    return ⟨name, fields⟩
  | _ => none

/-- A node type with all its fields. -/
def NodeType.toJson (n : NodeType) : Json :=
  .record [("name", .string n.name), ("fields", .array (n.fields.map FieldSpec.toJson))]

/-- A family with its name, and no includes or node types by default. -/
def Family.ofJson? (j : Json) : Option Family :=
  match j.fields? ["name", "includes", "node_types"] with
  | some [name, includes, nodeTypes] => do
    let name ← Json.required Json.string? name
    let includes ← Json.withDefault [] (Json.listOf Json.string?) includes
    let nodeTypes ← Json.withDefault [] (Json.listOf NodeType.ofJson?) nodeTypes
    return ⟨name, nodeTypes, includes⟩
  | _ => none

/-- A family with all its parts. -/
def Family.toJson (f : Family) : Json :=
  .record [("name", .string f.name), ("includes", .strings f.includes),
    ("node_types", .array (f.nodeTypes.map NodeType.toJson))]

/-- A value type with its name, and no path by default. -/
def ValueType.ofJson? (j : Json) : Option ValueType :=
  match j.fields? ["name", "path"] with
  | some [name, path] => do
    let name ← Json.required Json.string? name
    let path ← Json.nullable Json.string? path
    return ⟨name, path⟩
  | _ => none

/-- A value type; an absent path is left out. -/
def ValueType.toJson (v : ValueType) : Json :=
  .record (("name", .string v.name) :: (v.path.map fun path => ("path", .string path)).toList)

namespace Document

/-- A document with no value types and families by default. -/
def ofJson? (j : Json) : Option Document :=
  match j.fields? ["value_types", "families"] with
  | some [valueTypes, families] => do
    let valueTypes ← Json.withDefault [] (Json.listOf ValueType.ofJson?) valueTypes
    let families ← Json.withDefault [] (Json.listOf Family.ofJson?) families
    return ⟨valueTypes, families⟩
  | _ => none

/-- A document with all its parts. -/
def toJson (d : Document) : Json :=
  .record [("value_types", .array (d.valueTypes.map ValueType.toJson)),
    ("families", .array (d.families.map Family.toJson))]

/-- A document from its text. -/
def parse? (text : String) : Option Document :=
  (Json.parse? text).bind ofJson?

end Document

end TreeSmith
