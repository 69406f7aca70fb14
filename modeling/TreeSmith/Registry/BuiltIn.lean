import TreeSmith.Registry.Basic

/-!
# The built-in families

The expressions and statements of a small scripting language, Lox.  A child that is
absent by design is shared, as are the methods of a class; every other child takes
the policy of the run.

## Main definitions

* `builtInDocument` — the families.
* `Registry.builtIn` — the registry of them.
-/

namespace TreeSmith

/-- A token in a field. -/
def tokenField (name : String) : FieldSpec := .value "Token" name

/-- An expression in a field. -/
def exprField (name : String) : FieldSpec := .subtree "Expr" name

/-- A statement in a field. -/
def stmtField (name : String) : FieldSpec := .subtree "Stmt" name

/-- The node types of expressions. -/
def exprNodes : List NodeType :=
  [ ⟨"Assign", [tokenField "name", exprField "value"]⟩,
    ⟨"Binary", [exprField "left", tokenField "op", exprField "right"]⟩,
    ⟨"Call", [exprField "callee", tokenField "paren", (exprField "arguments").sequence]⟩,
    ⟨"Get", [exprField "object", tokenField "name"]⟩,
    ⟨"Grouping", [exprField "expression"]⟩,
    ⟨"Literal", [.value "Value" "value"]⟩,
    ⟨"Logical", [exprField "left", tokenField "op", exprField "right"]⟩,
    ⟨"Set", [exprField "object", tokenField "name", exprField "value"]⟩,
    ⟨"Super", [tokenField "keyword", tokenField "method"]⟩,
    ⟨"Ternary", [exprField "first", exprField "second", exprField "third"]⟩,
    ⟨"This", [tokenField "keyword"]⟩,
    ⟨"Unary", [tokenField "op", exprField "right"]⟩,
    ⟨"Variable", [tokenField "name"]⟩ ]

/-- The node types of statements. -/
def stmtNodes : List NodeType :=
  [ ⟨"Block", [(stmtField "statements").sequence]⟩,
    ⟨"Break", [tokenField "keyword"]⟩,
    ⟨"Class", [tokenField "name", (FieldSpec.subtree "Variable" "superclass").owned .shared,
      (FieldSpec.subtree "Function" "methods").sequence.owned .shared]⟩,
    ⟨"Expression", [exprField "expression"]⟩,
    ⟨"Function", [tokenField "name", (tokenField "params").sequence, (stmtField "body").sequence]⟩,
    ⟨"If", [exprField "condition", stmtField "then_branch",
      (stmtField "else_branch").owned .shared]⟩,
    ⟨"Print", [exprField "expression"]⟩,
    ⟨"Return", [tokenField "keyword", (exprField "value").owned .shared]⟩,
    ⟨"Var", [tokenField "name", (exprField "initialiser").owned .shared]⟩,
    ⟨"While", [exprField "condition", stmtField "body"]⟩ ]

/-- The built-in families with their value types. -/
def builtInDocument : Document :=
  { valueTypes := [⟨"Token", some "super::Token"⟩, ⟨"Value", some "super::Value"⟩]
    families :=
      [ { name := "Expr", nodeTypes := exprNodes, includes := [] },
        { name := "Stmt", nodeTypes := stmtNodes, includes := ["Expr"] } ] }

/-- The registry of the built-in families. -/
def Registry.builtIn : Except SchemaFault Registry :=
  Registry.ofDocument builtInDocument

end TreeSmith
