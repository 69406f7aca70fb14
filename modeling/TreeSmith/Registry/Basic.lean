import TreeSmith.Name
import TreeSmith.Schema
import TreeSmith.SchemaFault

/-!
# The registry

Value types and families in order of registration.  A family may include only
families registered before it, so inclusion has no cycle.  A refused registration
leaves the registry as it was.

## Main definitions

* `Registry.registerValueType` — a value type, or a new path for it.
* `Registry.define` — a family that passed every check.
* `Registry.ofDocument` — the registry that a document describes.
* `distinct` — a list without repetitions.
-/

namespace TreeSmith

/-- A list reduced to the first occurrence of each element. -/
def distinct {α : Type} [DecidableEq α] : List α → List α
  | [] => []
  | a :: as => a :: (distinct as).filter (· ≠ a)

/-- Value types and families in order of registration. -/
structure Registry where
  /-- The value types. -/
  valueTypes : List ValueType
  /-- The families. -/
  families : List Family
  deriving DecidableEq, Repr

namespace Registry

/-- The registry without any type. -/
def empty : Registry := ⟨[], []⟩

/-- The family of a name. -/
def family? (r : Registry) (name : String) : Option Family :=
  r.families.find? (·.name == name)

/-- The value type of a name. -/
def valueType? (r : Registry) (name : String) : Option ValueType :=
  r.valueTypes.find? (·.name == name)

/-- The list with `v` in the place of the value type of its name, or at the end. -/
def putValueType (v : ValueType) : List ValueType → List ValueType
  | [] => [v]
  | w :: ws => if w.name = v.name then v :: ws else w :: putValueType v ws

/-- Registers a type of plain values.  A name registered before keeps its place and
gets the new path; an empty path is none. -/
def registerValueType (r : Registry) (name : String) (path : Option String) :
    Except SchemaFault Registry :=
  if Name.isIdentifier name then
    .ok { r with valueTypes := putValueType ⟨name, path.filter (· ≠ "")⟩ r.valueTypes }
  else .error (.invalidName .valueType name)

/-! ### Checks of a family -/

/-- A name that the generated code declares: an identifier without a meaning of
its own. -/
def checkName (kind : NameKind) (name : String) : Except SchemaFault Unit :=
  if !Name.isIdentifier name then .error (.invalidName kind name)
  else if Name.isReserved name || Name.isBuiltinType name then .error (.reservedName kind name)
  else .ok ()

/-- The name of a family, whose snake case names a module and a parameter. -/
def checkFamilyName (name : String) : Except SchemaFault Unit := do
  checkName .family name
  if Name.isReservedFamily name then .error (.reservedName .family name)

/-- Every included family is registered. -/
def checkIncludes (r : Registry) (family : String) : List String → Except SchemaFault Unit
  | [] => .ok ()
  | included :: more =>
    if (r.family? included).isNone then .error (.unresolvedInclude family included)
    else checkIncludes r family more

/-- One field of a node type, after fields with the names `earlier`. -/
def checkField (nodeType : String) (earlier : List String) (f : FieldSpec) :
    Except SchemaFault Unit := do
  checkName .field f.name
  if Name.isGeneratedMember f.name then .error (.reservedName .field f.name)
  if !Name.isIdentifier f.type then .error (.invalidName .fieldType f.type)
  if earlier.contains f.name then .error (.duplicateField nodeType f.name)

/-- The fields of a node type from left to right. -/
def checkFields (nodeType : String) (earlier : List String) :
    List FieldSpec → Except SchemaFault Unit
  | [] => .ok ()
  | f :: more => do
    checkField nodeType earlier f
    checkFields nodeType (f.name :: earlier) more

/-- The node types of a family from left to right, after the base type and the node
types with the names `earlier`. -/
def checkNodeTypes (family : String) (earlier : List String) :
    List NodeType → Except SchemaFault Unit
  | [] => .ok ()
  | n :: more => do
    checkName .nodeType n.name
    if n.name = family || earlier.contains n.name then .error (.duplicateNodeType family n.name)
    checkFields n.name [] n.fields
    checkNodeTypes family (n.name :: earlier) more

/-- Registers a family at the end, with its includes reduced to first occurrences,
or reports the first thing that is wrong with it. -/
def define (r : Registry) (name : String) (nodeTypes : List NodeType) (includes : List String) :
    Except SchemaFault Registry := do
  checkFamilyName name
  if (r.family? name).isSome then .error (.duplicateFamily name)
  checkIncludes r name includes
  checkNodeTypes name [] nodeTypes
  return { r with families := r.families ++ [⟨name, nodeTypes, distinct includes⟩] }

/-! ### Documents -/

/-- Registers value types in order. -/
def registerAll (r : Registry) : List ValueType → Except SchemaFault Registry
  | [] => .ok r
  | v :: more => do registerAll (← r.registerValueType v.name v.path) more

/-- Registers families in order. -/
def defineAll (r : Registry) : List Family → Except SchemaFault Registry
  | [] => .ok r
  | f :: more => do defineAll (← r.define f.name f.nodeTypes f.includes) more

/-- The registry that a document describes: its value types, then its families. -/
def ofDocument (d : Document) : Except SchemaFault Registry := do
  defineAll (← registerAll empty d.valueTypes) d.families

/-- The document that lists a registry. -/
def toDocument (r : Registry) : Document :=
  ⟨r.valueTypes, r.families⟩

end Registry

end TreeSmith
