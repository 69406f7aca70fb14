import TreeSmith.Definition.Family
import TreeSmith.Template.Render

/-!
# Bindings

The names that a template may use for a family, and what they stand for.

## Main definitions

* `Bindings`, `FamilyDefinition.bindings` — what a template is given.
* `Bindings.frame` — the same as values of a template.
-/

namespace TreeSmith

/-- What a template is given for a family. -/
structure Bindings where
  /-- The base type of the family. -/
  baseName : String
  /-- The visitor of the family. -/
  visitorName : String
  /-- The name of the parameter of visitor methods. -/
  visitorParam : String
  /-- The imports for its fields. -/
  imports : List String
  /-- The imports of types from included families. -/
  includes : List String
  /-- The definitions of its node types. -/
  types : List TypeDefinition
  deriving DecidableEq, Repr

/-- The bindings of a family. -/
def FamilyDefinition.bindings (d : FamilyDefinition) : Bindings :=
  ⟨d.family, d.family ++ "Visitor", Name.snakeCase d.family, d.imports, d.includes.map (·.text),
    d.types⟩

/-- Texts as a list in a template. -/
def Template.Value.texts (items : List String) : Template.Value :=
  .list (items.map .text)

/-- Named values as a map in a template. -/
def Template.Value.record (members : List (String × Template.Value)) : Template.Value :=
  .map (members.map fun m => (.text m.1, m.2))

/-- A slot in a template. -/
def Slot.value (s : Slot) : Template.Value :=
  .record [("name", .text s.name), ("ty", .text s.type.text)]

/-- An accessor in a template. -/
def Accessor.value (a : Accessor) : Template.Value :=
  .record [("name", .text a.name), ("return_type", .text a.returnType.text),
    ("body", .text a.body.text), ("checked", .bool a.checked)]

/-- The definition of a node type in a template. -/
def TypeDefinition.value (d : TypeDefinition) : Template.Value :=
  .record [("name", .text d.name), ("base_name", .text d.baseName),
    ("visit_method", .text d.visitMethod), ("params", .list (d.params.map (·.value))),
    ("initializers", .texts d.initializers), ("storage", .list (d.storage.map (·.value))),
    ("accessors", .list (d.accessors.map (·.value)))]

/-- The names that a template may use. -/
def Bindings.frame (b : Bindings) : Template.Frame :=
  [("base_name", .text b.baseName), ("visitor_name", .text b.visitorName),
    ("visitor_param", .text b.visitorParam), ("imports", .texts b.imports),
    ("includes", .texts b.includes), ("type_definitions", .list (b.types.map (·.value)))]

end TreeSmith
