import TreeSmith.Definition.Basic
import TreeSmith.Settings.Basic

/-!
# Definitions of families

The definitions of all node types of a family, with the lines that the module needs
in front of them: what it imports for its fields, and the types of other families
that its fields name.

## Main definitions

* `IncludeLine` — the types imported from one included family.
* `supportImports`, `includeLines` — both kinds of lines.
* `FamilyDefinition`, `Registry.defineFamily` — the whole family.
-/

namespace TreeSmith

/-- The types that a module imports from an included family. -/
structure IncludeLine where
  /-- The path under which modules are found. -/
  root : String
  /-- The included family. -/
  family : String
  /-- The imported types in order of first use. -/
  names : List String
  deriving DecidableEq, Repr

/-- The module of the included family. -/
def IncludeLine.modulePath (line : IncludeLine) : String :=
  line.root ++ "::" ++ Name.snakeCase line.family

/-- The path that is imported: one type, or several in braces. -/
def IncludeLine.text (line : IncludeLine) : String :=
  match line.names with
  | [name] => line.modulePath ++ "::" ++ name
  | names => line.modulePath ++ "::\x7b" ++ String.intercalate ", " names ++ "\x7d"

/-- The path that the type of a plain value is imported from. -/
def ResolvedField.importPath? (f : ResolvedField) : Option String :=
  match f.kind with
  | .value path => path
  | .tree _ _ => none

/-- The name of a subtree's type, if a given family declares it. -/
def ResolvedField.targetIn? (family : String) (f : ResolvedField) : Option String :=
  match f.kind with
  | .tree _ target => if target.family = family then some target.typeName else none
  | .value _ => none

/-- What a module imports for its fields, each path once: the pointer of shared
subtrees, the error of checked accessors, and the paths of value types in order of
first use. -/
def supportImports (root : String) (fields : List ResolvedField) : List String :=
  distinct <|
    (if fields.any (·.policy? == some .shared) then ["std::rc::Rc"] else []) ++
    (if fields.any (·.isChecked) then [root ++ "::" ++ nullChildError] else []) ++
    fields.filterMap (·.importPath?)

/-- The types of an included family that the fields name, in order of first use. -/
def namesFrom (family : String) (fields : List ResolvedField) : List String :=
  distinct (fields.filterMap (·.targetIn? family))

/-- A line for each included family that a field names, in order of inclusion. -/
def includeLines (root : String) (includes : List String) (fields : List ResolvedField) :
    List IncludeLine :=
  (includes.map fun family => (⟨root, family, namesFrom family fields⟩ : IncludeLine)).filter
    fun line => !line.names.isEmpty

/-- A family with all its node types defined. -/
structure FamilyDefinition where
  /-- The name of the family. -/
  family : String
  /-- The definitions of its node types in order. -/
  types : List TypeDefinition
  /-- The imports for its fields. -/
  imports : List String
  /-- The types of included families. -/
  includes : List IncludeLine
  deriving DecidableEq, Repr

/-- The node types of a family with their fields resolved, in order. -/
def Registry.resolveNodes (r : Registry) (family : Family) (policy : Ownership) :
    List NodeType → Except SchemaFault (List (String × List ResolvedField))
  | [] => .ok []
  | n :: more => do
    let fields ← r.resolve family policy n
    let rest ← resolveNodes r family policy more
    return (n.name, fields) :: rest

/-- The definition of a family under given settings, or the first fault of a field. -/
def Registry.defineFamily (r : Registry) (settings : Settings) (family : Family) :
    Except SchemaFault FamilyDefinition := do
  let nodes ← r.resolveNodes family (settings.policyFor family.name) family.nodeTypes
  let fields := nodes.flatMap (·.2)
  let root := settings.generator.moduleRoot
  return ⟨family.name, nodes.map fun node => .of node.1 family.name node.2,
    supportImports root fields, includeLines root family.includes fields⟩

end TreeSmith
