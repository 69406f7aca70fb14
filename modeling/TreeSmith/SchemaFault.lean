import TreeSmith.Text.Quoted

/-!
# What can be wrong with a schema

The causes for which a family is refused or a field cannot be resolved, and the
sentence that reports each.

## Main definitions

* `NameKind` — what a name was meant for.
* `ReferenceFault` — why a field and the type that it names do not fit.
* `SchemaFault`, `SchemaFault.message` — the causes and their wording.
-/

namespace TreeSmith

/-- What a name was meant for. -/
inductive NameKind
  /-- A family. -/
  | family
  /-- A node type. -/
  | nodeType
  /-- A field. -/
  | field
  /-- The type of a field. -/
  | fieldType
  /-- A type of plain values. -/
  | valueType
  deriving DecidableEq, Repr

/-- The kind in a report. -/
def NameKind.text : NameKind → String
  | .family => "family"
  | .nodeType => "node type"
  | .field => "field"
  | .fieldType => "field type"
  | .valueType => "value type"

/-- Why a field and the type that it names do not fit. -/
inductive ReferenceFault
  /-- A plain value of this type cannot have an ownership. -/
  | ownedValue (type : String)
  /-- A subtree cannot be of this value type. -/
  | valueAsSubtree (type : String)
  /-- A field of this node type has to be a subtree. -/
  | unmarkedSubtree (type : String)
  deriving DecidableEq, Repr

/-- The reason in a report. -/
def ReferenceFault.text : ReferenceFault → String
  | .ownedValue type => "ownership declared on plain value of type " ++ type
  | .valueAsSubtree type => type ++ " is a value type, not a node type"
  | .unmarkedSubtree type =>
    type ++ " is a node type but the field is not marked as a tree reference"

/-- What is wrong with a schema. -/
inductive SchemaFault
  /-- A node type has the name of its family or of an earlier node type. -/
  | duplicateNodeType (family name : String)
  /-- A field has the name of an earlier field. -/
  | duplicateField (nodeType field : String)
  /-- A family of this name is there already. -/
  | duplicateFamily (name : String)
  /-- The name is no identifier. -/
  | invalidName (kind : NameKind) (name : String)
  /-- The name has a meaning of its own in the generated code. -/
  | reservedName (kind : NameKind) (name : String)
  /-- An included family is not there. -/
  | unresolvedInclude (family included : String)
  /-- A field names a type that its family does not see. -/
  | unknownFieldType (nodeType field type : String) (suggestion : Option String)
  /-- A field does not fit the type that it names. -/
  | invalidTreeReference (nodeType field : String) (reason : ReferenceFault)
  deriving DecidableEq, Repr

/-- The hint behind the report of an unknown type. -/
def SchemaFault.hint : Option String → String
  | none => ""
  | some name => " (did you mean " ++ name ++ "?)"

/-- The report of a fault. -/
def SchemaFault.message : SchemaFault → String
  | .duplicateNodeType family name => "Duplicate node type: " ++ family ++ "." ++ name
  | .duplicateField nodeType field => "Duplicate field: " ++ nodeType ++ "." ++ field
  | .duplicateFamily name => "Family already registered: " ++ name
  | .invalidName kind name =>
    "Empty or invalid " ++ kind.text ++ " name: " ++ Text.quoted name
  | .reservedName kind name => "Reserved word used as " ++ kind.text ++ " name: " ++ name
  | .unresolvedInclude family included =>
    "Family " ++ family ++ " includes unregistered family " ++ included
  | .unknownFieldType nodeType field type suggestion =>
    "Unknown field type " ++ type ++ " for " ++ nodeType ++ "." ++ field ++ hint suggestion
  | .invalidTreeReference nodeType field reason =>
    "Invalid tree reference " ++ nodeType ++ "." ++ field ++ ": " ++ reason.text

end TreeSmith
