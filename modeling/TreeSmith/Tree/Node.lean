import TreeSmith.Tree.Token

/-!
# Syntax trees

The nodes of expressions and statements.  A child with one owner may be absent only
by mistake; a shared child may be absent by design.

## Main definitions

* `Expr`, `Stmt`, `Function`, `Node` — the nodes.
* `AbsentChild` — a child that is absent by mistake.
* `Field`, `Node.fields` — the fields of a node by name.
-/

namespace TreeSmith.Tree

/-- A use of a variable. -/
structure Variable where
  /-- The variable. -/
  name : Token
  deriving DecidableEq, Repr

/-- An expression. -/
inductive Expr
  /-- Gives a variable a value. -/
  | assign (name : Token) (value : Option Expr)
  /-- Combines two values. -/
  | binary (left : Option Expr) (op : Token) (right : Option Expr)
  /-- Calls something. -/
  | call (callee : Option Expr) (paren : Token) (arguments : List Expr)
  /-- Reads a property. -/
  | get (object : Option Expr) (name : Token)
  /-- Stands in parentheses. -/
  | grouping (expression : Option Expr)
  /-- Stands for itself. -/
  | literal (value : Literal)
  /-- Combines two truth values. -/
  | logical (left : Option Expr) (op : Token) (right : Option Expr)
  /-- Gives a property a value. -/
  | set (object : Option Expr) (name : Token) (value : Option Expr)
  /-- Names a method of the class above. -/
  | super (keyword method : Token)
  /-- Chooses between two values. -/
  | ternary (first second third : Option Expr)
  /-- Names the object itself. -/
  | this (keyword : Token)
  /-- Changes one value. -/
  | unary (op : Token) (right : Option Expr)
  /-- Uses a variable. -/
  | variable (v : Variable)

mutual

/-- A statement. -/
inductive Stmt
  /-- Statements in order. -/
  | block (statements : List Stmt)
  /-- Leaves a loop. -/
  | leave (keyword : Token)
  /-- Declares a class. -/
  | classDecl (name : Token) (superclass : Option Variable) (methods : List Function)
  /-- Evaluates an expression. -/
  | expression (expression : Option Expr)
  /-- Declares a function. -/
  | function (f : Function)
  /-- Chooses between two statements. -/
  | branch (condition : Option Expr) (thenBranch elseBranch : Option Stmt)
  /-- Prints a value. -/
  | print (expression : Option Expr)
  /-- Returns from a function. -/
  | giveBack (keyword : Token) (value : Option Expr)
  /-- Declares a variable. -/
  | varDecl (name : Token) (initialiser : Option Expr)
  /-- Repeats a statement. -/
  | loop (condition : Option Expr) (body : Option Stmt)

/-- A function. -/
inductive Function
  /-- A function with a name, parameters and a body. -/
  | mk (name : Token) (params : List Token) (body : List Stmt)

end

/-- The name of a function. -/
def Function.name : Function → Token
  | .mk name _ _ => name

/-- The parameters of a function. -/
def Function.params : Function → List Token
  | .mk _ params _ => params

/-- The body of a function. -/
def Function.body : Function → List Stmt
  | .mk _ _ body => body

/-- A node of either family. -/
inductive Node
  /-- An expression. -/
  | expr (e : Expr)
  /-- A statement. -/
  | stmt (s : Stmt)

/-- A child that is absent by mistake. -/
structure AbsentChild where
  /-- The node type. -/
  nodeType : String
  /-- The field. -/
  field : String
  deriving DecidableEq, Repr

/-- The message about an absent child. -/
def AbsentChild.message (a : AbsentChild) : String :=
  a.nodeType ++ "." ++ a.field ++ " is null"

/-! ### Fields -/

/-- What the accessor of a field hands out. -/
inductive Field
  /-- A token. -/
  | token (t : Token)
  /-- A list of tokens. -/
  | tokens (ts : List Token)
  /-- A literal value. -/
  | literal (v : Literal)
  /-- A child with one owner, or the report that it is absent. -/
  | owned (child : Except AbsentChild Node)
  /-- A shared child, if there is one. -/
  | shared (child : Option Node)
  /-- A list of children. -/
  | children (nodes : List Node)

/-- The field of a child expression with one owner. -/
def Field.ownedExpr (nodeType field : String) : Option Expr → Field
  | some e => .owned (.ok (.expr e))
  | none => .owned (.error ⟨nodeType, field⟩)

/-- The field of a child statement with one owner. -/
def Field.ownedStmt (nodeType field : String) : Option Stmt → Field
  | some s => .owned (.ok (.stmt s))
  | none => .owned (.error ⟨nodeType, field⟩)

/-- The field of a shared child expression. -/
def Field.sharedExpr (child : Option Expr) : Field :=
  .shared (child.map .expr)

/-- The fields of an expression in order of declaration. -/
def Expr.fields : Expr → List (String × Field)
  | .assign name value => [("name", .token name), ("value", .ownedExpr "Assign" "value" value)]
  | .binary left op right =>
    [("left", .ownedExpr "Binary" "left" left), ("op", .token op),
      ("right", .ownedExpr "Binary" "right" right)]
  | .call callee paren arguments =>
    [("callee", .ownedExpr "Call" "callee" callee), ("paren", .token paren),
      ("arguments", .children (arguments.map .expr))]
  | .get object name => [("object", .ownedExpr "Get" "object" object), ("name", .token name)]
  | .grouping expression => [("expression", .ownedExpr "Grouping" "expression" expression)]
  | .literal value => [("value", .literal value)]
  | .logical left op right =>
    [("left", .ownedExpr "Logical" "left" left), ("op", .token op),
      ("right", .ownedExpr "Logical" "right" right)]
  | .set object name value =>
    [("object", .ownedExpr "Set" "object" object), ("name", .token name),
      ("value", .ownedExpr "Set" "value" value)]
  | .super keyword method => [("keyword", .token keyword), ("method", .token method)]
  | .ternary first second third =>
    [("first", .ownedExpr "Ternary" "first" first),
      ("second", .ownedExpr "Ternary" "second" second),
      ("third", .ownedExpr "Ternary" "third" third)]
  | .this keyword => [("keyword", .token keyword)]
  | .unary op right => [("op", .token op), ("right", .ownedExpr "Unary" "right" right)]
  | .variable v => [("name", .token v.name)]

/-- The fields of a statement in order of declaration. -/
def Stmt.fields : Stmt → List (String × Field)
  | .block statements => [("statements", .children (statements.map .stmt))]
  | .leave keyword => [("keyword", .token keyword)]
  | .classDecl name superclass methods =>
    [("name", .token name), ("superclass", .shared (superclass.map fun v => .expr (.variable v))),
      ("methods", .children (methods.map fun f => .stmt (.function f)))]
  | .expression e => [("expression", .ownedExpr "Expression" "expression" e)]
  | .function f =>
    [("name", .token f.name), ("params", .tokens f.params), ("body", .children (f.body.map .stmt))]
  | .branch condition thenBranch elseBranch =>
    [("condition", .ownedExpr "If" "condition" condition),
      ("then_branch", .ownedStmt "If" "then_branch" thenBranch),
      ("else_branch", .shared (elseBranch.map .stmt))]
  | .print e => [("expression", .ownedExpr "Print" "expression" e)]
  | .giveBack keyword value => [("keyword", .token keyword), ("value", .sharedExpr value)]
  | .varDecl name initialiser => [("name", .token name), ("initialiser", .sharedExpr initialiser)]
  | .loop condition body =>
    [("condition", .ownedExpr "While" "condition" condition),
      ("body", .ownedStmt "While" "body" body)]

/-- The fields of a node in order of declaration. -/
def Node.fields : Node → List (String × Field)
  | .expr e => e.fields
  | .stmt s => s.fields

end TreeSmith.Tree
