import TreeSmith.Tree.Node

/-!
# Inspecting syntax trees

A tree on one line with the names of all node types and fields.

## Main definitions

* `Expr.inspect`, `Stmt.inspect`, `Node.inspect`.
-/

namespace TreeSmith.Tree

/-- A variable for inspection. -/
def Variable.inspect (v : Variable) : String :=
  inspectRecord "Variable" [("name", v.name.inspect)]

/-- Something or nothing, for inspection. -/
def inspectOption : Option String → String
  | none => "None"
  | some s => "Some(" ++ s ++ ")"

mutual

/-- An expression for inspection. -/
def Expr.inspect : Expr → String
  | .assign name value =>
    inspectRecord "Assign" [("name", name.inspect), ("value", inspectExpr? value)]
  | .binary left op right =>
    inspectRecord "Binary"
      [("left", inspectExpr? left), ("op", op.inspect), ("right", inspectExpr? right)]
  | .call callee paren arguments =>
    inspectRecord "Call" [("callee", inspectExpr? callee), ("paren", paren.inspect),
      ("arguments", inspectList (inspectExprs arguments))]
  | .get object name =>
    inspectRecord "Get" [("object", inspectExpr? object), ("name", name.inspect)]
  | .grouping expression => inspectRecord "Grouping" [("expression", inspectExpr? expression)]
  | .literal value => inspectRecord "Literal" [("value", value.inspect)]
  | .logical left op right =>
    inspectRecord "Logical"
      [("left", inspectExpr? left), ("op", op.inspect), ("right", inspectExpr? right)]
  | .set object name value =>
    inspectRecord "Set"
      [("object", inspectExpr? object), ("name", name.inspect), ("value", inspectExpr? value)]
  | .super keyword method =>
    inspectRecord "Super" [("keyword", keyword.inspect), ("method", method.inspect)]
  | .ternary first second third =>
    inspectRecord "Ternary" [("first", inspectExpr? first), ("second", inspectExpr? second),
      ("third", inspectExpr? third)]
  | .this keyword => inspectRecord "This" [("keyword", keyword.inspect)]
  | .unary op right => inspectRecord "Unary" [("op", op.inspect), ("right", inspectExpr? right)]
  | .variable v => v.inspect

/-- A child expression for inspection. -/
def inspectExpr? : Option Expr → String
  | none => "None"
  | some e => "Some(" ++ e.inspect ++ ")"

/-- Expressions for inspection. -/
def inspectExprs : List Expr → List String
  | [] => []
  | e :: more => e.inspect :: inspectExprs more

end

mutual

/-- A statement for inspection. -/
def Stmt.inspect : Stmt → String
  | .block statements =>
    inspectRecord "Block" [("statements", inspectList (inspectStmts statements))]
  | .leave keyword => inspectRecord "Break" [("keyword", keyword.inspect)]
  | .classDecl name superclass methods =>
    inspectRecord "Class" [("name", name.inspect),
      ("superclass", inspectOption (superclass.map (·.inspect))),
      ("methods", inspectList (inspectFunctions methods))]
  | .expression e => inspectRecord "Expression" [("expression", inspectExpr? e)]
  | .function f => f.inspect
  | .branch condition thenBranch elseBranch =>
    inspectRecord "If" [("condition", inspectExpr? condition),
      ("then_branch", inspectStmt? thenBranch), ("else_branch", inspectStmt? elseBranch)]
  | .print e => inspectRecord "Print" [("expression", inspectExpr? e)]
  | .giveBack keyword value =>
    inspectRecord "Return" [("keyword", keyword.inspect), ("value", inspectExpr? value)]
  | .varDecl name initialiser =>
    inspectRecord "Var" [("name", name.inspect), ("initialiser", inspectExpr? initialiser)]
  | .loop condition body =>
    inspectRecord "While" [("condition", inspectExpr? condition), ("body", inspectStmt? body)]

/-- A function for inspection. -/
def Function.inspect : Function → String
  | .mk name params body =>
    inspectRecord "Function" [("name", name.inspect),
      ("params", inspectList (params.map (·.inspect))), ("body", inspectList (inspectStmts body))]

/-- A child statement for inspection. -/
def inspectStmt? : Option Stmt → String
  | none => "None"
  | some s => "Some(" ++ s.inspect ++ ")"

/-- Statements for inspection. -/
def inspectStmts : List Stmt → List String
  | [] => []
  | s :: more => s.inspect :: inspectStmts more

/-- Functions for inspection. -/
def inspectFunctions : List Function → List String
  | [] => []
  | f :: more => f.inspect :: inspectFunctions more

end

/-- A node for inspection. -/
def Node.inspect : Node → String
  | .expr e => e.inspect
  | .stmt s => s.inspect

end TreeSmith.Tree
