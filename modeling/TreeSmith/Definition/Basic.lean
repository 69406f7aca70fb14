import TreeSmith.Name
import TreeSmith.Resolution

/-!
# Definitions of node types

A resolved node type becomes a definition in the target language: a slot for each
field, a constructor that takes the fields in order, and an accessor for each.

| field | slot | accessor |
|---|---|---|
| value | `T` | `&T` |
| values | `Vec<T>` | `&[T]` |
| exclusive child | `Option<Box<T>>` | `Result<&T, NullChildError>` |
| shared child | `Option<Rc<T>>` | `Option<&Rc<T>>` |
| exclusive children | `Vec<Box<T>>` | `&[Box<T>]` |
| shared children | `Vec<Rc<T>>` | `&[Rc<T>]` |

## Main definitions

* `TypeExpr`, `TypeExpr.text` — types of the target language.
* `Access`, `Access.text` — the bodies of accessors.
* `Slot`, `Accessor`, `TypeDefinition` — a definition.
* `TypeDefinition.of` — the definition of a resolved node type.
-/

namespace TreeSmith

/-- The error type of a checked accessor. -/
def nullChildError : String := "NullChildError"

/-- A type of the target language. -/
inductive TypeExpr
  /-- A type by its name. -/
  | named (name : String)
  /-- Any type of a family, through its base type. -/
  | anyOf (family : String)
  /-- A growing sequence. -/
  | sequence (element : TypeExpr)
  /-- Something or nothing. -/
  | optional (inner : TypeExpr)
  /-- An owning pointer. -/
  | pointer (policy : Ownership) (target : TypeExpr)
  /-- A reference. -/
  | reference (target : TypeExpr)
  /-- A reference to a row of elements. -/
  | slice (element : TypeExpr)
  /-- A result that an absent child makes fail. -/
  | fallible (value : TypeExpr)
  deriving DecidableEq, Repr

/-- The pointer type of a policy. -/
def Ownership.pointer : Ownership → String
  | .exclusive => "Box"
  | .shared => "Rc"

/-- A type as it is spelled. -/
def TypeExpr.text : TypeExpr → String
  | .named name => name
  | .anyOf family => "dyn " ++ family
  | .sequence t => "Vec<" ++ t.text ++ ">"
  | .optional t => "Option<" ++ t.text ++ ">"
  | .pointer policy t => policy.pointer ++ "<" ++ t.text ++ ">"
  | .reference t => "&" ++ t.text
  | .slice t => "&[" ++ t.text ++ "]"
  | .fallible t => "Result<" ++ t.text ++ ", " ++ nullChildError ++ ">"

/-- The name of the value or node type at the core of a type. -/
def TypeExpr.element : TypeExpr → String
  | .named name => name
  | .anyOf family => family
  | .sequence t => t.element
  | .optional t => t.element
  | .pointer _ t => t.element
  | .reference t => t.element
  | .slice t => t.element
  | .fallible t => t.element

/-- What an accessor does with its slot. -/
inductive Access
  /-- Hands out a reference to the slot. -/
  | borrow (field : String)
  /-- Hands out the child, or fails naming the node type and the field. -/
  | require (nodeType field : String)
  /-- Hands out the pointer to the child, if there is one. -/
  | peek (field : String)
  deriving DecidableEq, Repr

/-- The body of an accessor. -/
def Access.text : Access → String
  | .borrow field => "&self." ++ field
  | .require nodeType field =>
    "self." ++ field ++ ".as_deref().ok_or_else(|| " ++ nullChildError ++ "::new(\"" ++ nodeType ++
      "\", \"" ++ field ++ "\"))"
  | .peek field => "self." ++ field ++ ".as_ref()"

/-- A parameter of the constructor, or a slot of the node. -/
structure Slot where
  /-- The name. -/
  name : String
  /-- The type. -/
  type : TypeExpr
  deriving DecidableEq, Repr

/-- An accessor. -/
structure Accessor where
  /-- The name, which is that of the field. -/
  name : String
  /-- The type of what it hands out. -/
  returnType : TypeExpr
  /-- What it does. -/
  body : Access
  /-- It fails on an absent child. -/
  checked : Bool
  deriving DecidableEq, Repr

/-- The definition of a node type. -/
structure TypeDefinition where
  /-- The name of the node type. -/
  name : String
  /-- The base type of its family. -/
  baseName : String
  /-- The visitor method that it calls. -/
  visitMethod : String
  /-- The parameters of the constructor. -/
  params : List Slot
  /-- The slots that the constructor fills from the parameters of their names. -/
  initializers : List String
  /-- The slots. -/
  storage : List Slot
  /-- The accessors. -/
  accessors : List Accessor
  deriving DecidableEq, Repr

/-- The parameters as the constructor lists them. -/
def TypeDefinition.signature (d : TypeDefinition) : String :=
  String.intercalate ", " (d.params.map fun p => p.name ++ ": " ++ p.type.text)

/-- The type of a subtree: any node of a family, or one node type. -/
def TreeTarget.type : TreeTarget → TypeExpr
  | .base family => .anyOf family
  | .node _ name => .named name

/-- The type of the slot of a field. -/
def ResolvedField.storageType (f : ResolvedField) : TypeExpr :=
  match f.kind, f.repeated with
  | .value _, false => .named f.typeName
  | .value _, true => .sequence (.named f.typeName)
  | .tree policy target, false => .optional (.pointer policy target.type)
  | .tree policy target, true => .sequence (.pointer policy target.type)

/-- The slot of a field. -/
def ResolvedField.slot (f : ResolvedField) : Slot :=
  ⟨f.name, f.storageType⟩

/-- The accessor of a field of a node type. -/
def ResolvedField.accessor (nodeType : String) (f : ResolvedField) : Accessor :=
  match f.kind, f.repeated with
  | .value _, false => ⟨f.name, .reference (.named f.typeName), .borrow f.name, false⟩
  | .value _, true => ⟨f.name, .slice (.named f.typeName), .borrow f.name, false⟩
  | .tree .exclusive target, false =>
    ⟨f.name, .fallible (.reference target.type), .require nodeType f.name, true⟩
  | .tree .shared target, false =>
    ⟨f.name, .optional (.reference (.pointer .shared target.type)), .peek f.name, false⟩
  | .tree policy target, true =>
    ⟨f.name, .slice (.pointer policy target.type), .borrow f.name, false⟩

/-- The definition of a node type with its fields resolved. -/
def TypeDefinition.of (nodeType base : String) (fields : List ResolvedField) : TypeDefinition :=
  ⟨nodeType, base, Name.visitMethod nodeType base, fields.map (·.slot), fields.map (·.name),
    fields.map (·.slot), fields.map (·.accessor nodeType)⟩

end TreeSmith
