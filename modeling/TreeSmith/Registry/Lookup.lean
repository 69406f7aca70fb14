import TreeSmith.Registry.Basic
import TreeSmith.Similarity

/-!
# Names that a family sees

From inside a family a type name means, in this order, the family itself or one of
its node types, an included family or one of its node types, or a value type.

## Main definitions

* `TypeRef` — what a type name means.
* `Registry.lookup` — the meaning of a type name.
* `Registry.visible` — everything that a family sees, in order of precedence.
* `Registry.suggest` — the visible name most like a given one.
-/

namespace TreeSmith

/-- What a type name means. -/
inductive TypeRef
  /-- A type of plain values. -/
  | value (v : ValueType)
  /-- Any node of a family, through its base type. -/
  | base (f : Family)
  /-- One node type of a family. -/
  | node (f : Family) (n : NodeType)
  deriving DecidableEq, Repr

/-- The name by which the type is known. -/
def TypeRef.name : TypeRef → String
  | .value v => v.name
  | .base f => f.name
  | .node _ n => n.name

/-- The meaning of a name among the types that a family declares. -/
def Family.lookup (f : Family) (name : String) : Option TypeRef :=
  if f.name = name then some (.base f) else (f.nodeType? name).map (.node f)

/-- The types that a family declares: the base type, then the node types. -/
def Family.types (f : Family) : List TypeRef :=
  .base f :: f.nodeTypes.map (.node f)

namespace Registry

/-- The meaning of a name among the types of included families. -/
def lookupIncluded (r : Registry) (name : String) : List String → Option TypeRef
  | [] => none
  | included :: more =>
    ((r.family? included).bind (·.lookup name)).or (lookupIncluded r name more)

/-- The meaning of a type name inside a family. -/
def lookup (r : Registry) (f : Family) (name : String) : Option TypeRef :=
  ((f.lookup name).or (r.lookupIncluded name f.includes)).or ((r.valueType? name).map .value)

/-- The families whose types a family sees, itself first. -/
def scopes (r : Registry) (f : Family) : List Family :=
  f :: f.includes.filterMap r.family?

/-- Everything that a family sees, in order of precedence. -/
def visible (r : Registry) (f : Family) : List TypeRef :=
  (r.scopes f).flatMap Family.types ++ r.valueTypes.map .value

/-- The names that a family sees. -/
def visibleNames (r : Registry) (f : Family) : List String :=
  (r.visible f).map TypeRef.name

/-- The visible name most like `name`, the first of several alike. -/
def suggest (r : Registry) (f : Family) (name : String) : Option String :=
  let names := r.visibleNames f
  firstBest (names.zip (Similarity.scores name names))

end Registry

end TreeSmith
