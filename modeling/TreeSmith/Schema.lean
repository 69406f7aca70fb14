/-!
# Schemas of node families

A family is a base type with its node types; a node type is a list of fields, each
a plain value or a reference to a subtree.  Lists keep the order of declaration,
which fixes the order of everything that is generated.

## Main definitions

* `Ownership` — how a node holds a subtree.
* `FieldSpec`, `NodeType`, `Family` — the parts of a family.
* `ValueType` — a type for plain values, and where it is imported from.
* `Document` — value types and families as they are written down.
-/

namespace TreeSmith

/-- How a node holds a subtree. -/
inductive Ownership
  /-- One owner; reading an absent child fails. -/
  | exclusive
  /-- Any number of holders; an absent child reads as absent. -/
  | shared
  deriving DecidableEq, Repr, Inhabited

/-- The name of an ownership policy in documents and settings. -/
def Ownership.name : Ownership → String
  | .exclusive => "exclusive"
  | .shared => "shared"

/-- A policy by its exact name. -/
def Ownership.ofName? (s : String) : Option Ownership :=
  if s = "exclusive" then some .exclusive
  else if s = "shared" then some .shared
  else none

/-- A policy as a user writes it: its name, or the word `unique` for the exclusive
one, in any case of letters. -/
def Ownership.ofWord? (s : String) : Option Ownership :=
  if s.toLower = "unique" then some .exclusive else ofName? s.toLower

/-- The report of a word that is no policy. -/
def Ownership.unknownWord (s : String) : String :=
  "unknown ownership policy: " ++ s.toLower

/-- A field of a node type. -/
structure FieldSpec where
  /-- The value type, or the family or node type of a subtree. -/
  type : String
  /-- The name of the field. -/
  name : String
  /-- The field holds a subtree. -/
  tree : Bool
  /-- The field holds a sequence. -/
  repeated : Bool
  /-- The ownership declared for this field alone. -/
  ownership : Option Ownership
  deriving DecidableEq, Repr

/-- A single plain value. -/
def FieldSpec.value (type name : String) : FieldSpec := ⟨type, name, false, false, none⟩

/-- A single subtree without an ownership of its own. -/
def FieldSpec.subtree (type name : String) : FieldSpec := ⟨type, name, true, false, none⟩

/-- The field as a sequence. -/
def FieldSpec.sequence (f : FieldSpec) : FieldSpec := { f with repeated := true }

/-- The field with an ownership of its own. -/
def FieldSpec.owned (f : FieldSpec) (policy : Ownership) : FieldSpec :=
  { f with ownership := some policy }

/-- A node type: its name and its fields in order. -/
structure NodeType where
  /-- The name of the node type. -/
  name : String
  /-- The fields in order of declaration. -/
  fields : List FieldSpec
  deriving DecidableEq, Repr

/-- The field of a name. -/
def NodeType.field? (n : NodeType) (name : String) : Option FieldSpec :=
  n.fields.find? (·.name == name)

/-- A family: a base type, its node types, and the families whose types its fields
may name. -/
structure Family where
  /-- The name of the base type. -/
  name : String
  /-- The node types in order of declaration. -/
  nodeTypes : List NodeType
  /-- The included families in order. -/
  includes : List String
  deriving DecidableEq, Repr

/-- The node type of a name. -/
def Family.nodeType? (f : Family) (name : String) : Option NodeType :=
  f.nodeTypes.find? (·.name == name)

/-- A type of plain values. -/
structure ValueType where
  /-- The name of the type. -/
  name : String
  /-- The path that a module using the type imports, if any. -/
  path : Option String
  deriving DecidableEq, Repr

/-- Value types and families as a document lists them. -/
structure Document where
  /-- The value types in order. -/
  valueTypes : List ValueType
  /-- The families in order. -/
  families : List Family
  deriving DecidableEq, Repr

end TreeSmith
