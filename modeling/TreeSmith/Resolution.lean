import TreeSmith.Registry.Lookup

/-!
# Resolved fields

A field of a node type is resolved when its type name has a meaning and, for a
subtree, its ownership is settled: the one that the field declares, or else the one
of the run.

## Main definitions

* `TreeTarget`, `FieldKind`, `ResolvedField` — a field with its meaning.
* `Registry.resolveField`, `Registry.resolve` — one field, and all fields of a node
  type in order.
-/

namespace TreeSmith

/-- What a subtree may be. -/
inductive TreeTarget
  /-- Any node of a family. -/
  | base (family : String)
  /-- One node type of a family. -/
  | node (family name : String)
  deriving DecidableEq, Repr

/-- The family that declares the target. -/
def TreeTarget.family : TreeTarget → String
  | .base family => family
  | .node family _ => family

/-- The name by which the target is imported. -/
def TreeTarget.typeName : TreeTarget → String
  | .base family => family
  | .node _ name => name

/-- How a field is stored. -/
inductive FieldKind
  /-- A plain value, with the path that its type is imported from. -/
  | value (path : Option String)
  /-- A subtree with its ownership. -/
  | tree (policy : Ownership) (target : TreeTarget)
  deriving DecidableEq, Repr

/-- A field with its meaning. -/
structure ResolvedField where
  /-- The name of the field. -/
  name : String
  /-- The type as the schema spells it. -/
  typeName : String
  /-- The field holds a sequence. -/
  repeated : Bool
  /-- What the field holds. -/
  kind : FieldKind
  deriving DecidableEq, Repr

namespace ResolvedField

/-- The ownership of a subtree. -/
def policy? (f : ResolvedField) : Option Ownership :=
  match f.kind with
  | .tree policy _ => some policy
  | .value _ => none

/-- The field holds a subtree. -/
def isTree (f : ResolvedField) : Bool :=
  match f.kind with
  | .tree _ _ => true
  | .value _ => false

/-- Reading the field fails when the child is absent: a single subtree with one
owner.  A sequence holds its elements directly. -/
def isChecked (f : ResolvedField) : Bool :=
  !f.repeated && f.policy? == some .exclusive

end ResolvedField

namespace Registry

/-- How a field is stored, given the meaning of its type. -/
def fieldKind (nodeType : String) (f : FieldSpec) (policy : Ownership) :
    TypeRef → Except SchemaFault FieldKind
  | .value v =>
    if f.tree then .error (.invalidTreeReference nodeType f.name (.valueAsSubtree v.name))
    else if f.ownership.isSome then
      .error (.invalidTreeReference nodeType f.name (.ownedValue v.name))
    else .ok (.value v.path)
  | .base family =>
    if f.tree then .ok (.tree (f.ownership.getD policy) (.base family.name))
    else .error (.invalidTreeReference nodeType f.name (.unmarkedSubtree f.type))
  | .node family n =>
    if f.tree then .ok (.tree (f.ownership.getD policy) (.node family.name n.name))
    else .error (.invalidTreeReference nodeType f.name (.unmarkedSubtree f.type))

/-- A field of a node type of `family`, under the policy of the run. -/
def resolveField (r : Registry) (family : Family) (policy : Ownership) (nodeType : String)
    (f : FieldSpec) : Except SchemaFault ResolvedField :=
  match r.lookup family f.type with
  | none =>
    .error (.unknownFieldType nodeType f.name f.type (r.suggest family f.type))
  | some type => do
    let kind ← fieldKind nodeType f policy type
    return ⟨f.name, f.type, f.repeated, kind⟩

/-- The fields of a node type from left to right, or the first that cannot be
resolved. -/
def resolveFields (r : Registry) (family : Family) (policy : Ownership) (nodeType : String) :
    List FieldSpec → Except SchemaFault (List ResolvedField)
  | [] => .ok []
  | f :: more => do
    let resolved ← r.resolveField family policy nodeType f
    let rest ← resolveFields r family policy nodeType more
    return resolved :: rest

/-- All fields of a node type in order. -/
def resolve (r : Registry) (family : Family) (policy : Ownership) (n : NodeType) :
    Except SchemaFault (List ResolvedField) :=
  r.resolveFields family policy n.name n.fields

end Registry

end TreeSmith
