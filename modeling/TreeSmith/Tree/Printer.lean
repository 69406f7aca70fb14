import TreeSmith.Tree.Node

/-!
# Printing syntax trees

A tree in prefix form with parentheses.  A printer goes through the tree once; it
keeps the text so far and the first child that it found absent by mistake, and does
not go into any further child after that.

## Main definitions

* `Printer` — the state of printing.
* `Expr.printOn`, `Stmt.printOn` — one node.
* `Node.printed` — a tree, or its first absent child.
-/

namespace TreeSmith.Tree

/-- The state of printing. -/
structure Printer where
  /-- The text so far. -/
  out : String
  /-- The first child found absent. -/
  fault : Option AbsentChild
  deriving DecidableEq, Repr

namespace Printer

/-- Nothing is printed yet. -/
def start : Printer := ⟨"", none⟩

/-- Writes a text. -/
def write (p : Printer) (s : String) : Printer := { p with out := p.out ++ s }

/-- Opens a form. -/
def openForm (p : Printer) (name : String) : Printer := (p.write "(").write name

/-- Closes a form. -/
def closeForm (p : Printer) : Printer := p.write ")"

/-- Writes a word after a space. -/
def word (p : Printer) (s : String) : Printer := (p.write " ").write s

/-- Goes into a child, after a space, unless something was absent before. -/
def child (p : Printer) (visit : Printer → Printer) : Printer :=
  match p.fault with
  | some _ => p
  | none => visit (p.write " ")

/-- Reports an absent child, unless something was absent before. -/
def absent (p : Printer) (nodeType field : String) : Printer :=
  match p.fault with
  | some _ => p
  | none => { p with fault := some ⟨nodeType, field⟩ }

/-- The text, or the first absent child. -/
def finish (p : Printer) : Except AbsentChild String :=
  match p.fault with
  | some fault => .error fault
  | none => .ok p.out

end Printer

mutual

/-- Prints an expression. -/
def Expr.printOn : Expr → Printer → Printer
  | .assign name value, p =>
    (printOwned "Assign" "value" value ((p.openForm "=").word name.lexeme)).closeForm
  | .binary left op right, p =>
    (printOwned "Binary" "right" right
      (printOwned "Binary" "left" left (p.openForm op.lexeme))).closeForm
  | .call callee _ arguments, p =>
    (printExprs arguments (printOwned "Call" "callee" callee (p.openForm "call"))).closeForm
  | .get object name, p =>
    ((printOwned "Get" "object" object (p.openForm ".")).word name.lexeme).closeForm
  | .grouping expression, p =>
    (printOwned "Grouping" "expression" expression (p.openForm "group")).closeForm
  | .literal value, p => p.write value.written
  | .logical left op right, p =>
    (printOwned "Logical" "right" right
      (printOwned "Logical" "left" left (p.openForm op.lexeme))).closeForm
  | .set object name value, p =>
    (printOwned "Set" "value" value
      ((printOwned "Set" "object" object (p.openForm "=")).word name.lexeme)).closeForm
  | .super _ method, p => ((p.openForm "super").word method.lexeme).closeForm
  | .ternary first second third, p =>
    (printOwned "Ternary" "third" third (printOwned "Ternary" "second" second
      (printOwned "Ternary" "first" first (p.openForm "?:")))).closeForm
  | .this _, p => p.write "this"
  | .unary op right, p => (printOwned "Unary" "right" right (p.openForm op.lexeme)).closeForm
  | .variable v, p => p.write v.name.lexeme

/-- Prints a child expression with one owner. -/
def printOwned (nodeType field : String) : Option Expr → Printer → Printer
  | some e, p => p.child fun q => e.printOn q
  | none, p => p.absent nodeType field

/-- Prints expressions in order. -/
def printExprs : List Expr → Printer → Printer
  | [], p => p
  | e :: more, p => printExprs more (p.child fun q => e.printOn q)

end

/-- Prints a shared child expression, if there is one. -/
def printShared : Option Expr → Printer → Printer
  | some e, p => p.child fun q => e.printOn q
  | none, p => p

mutual

/-- Prints a statement. -/
def Stmt.printOn : Stmt → Printer → Printer
  | .block statements, p => (printStmts statements (p.openForm "block")).closeForm
  | .leave _, p => p.write "(break)"
  | .classDecl name superclass methods, p =>
    let head := (p.openForm "class").word name.lexeme
    let head :=
      match superclass with
      | some v => (head.word "<").word v.name.lexeme
      | none => head
    (printFunctions methods head).closeForm
  | .expression e, p =>
    (printOwned "Expression" "expression" e (p.openForm ";")).closeForm
  | .function f, p => f.printOn p
  | .branch condition thenBranch elseBranch, p =>
    (printSharedStmt elseBranch (printOwnedStmt "If" "then_branch" thenBranch
      (printOwned "If" "condition" condition (p.openForm "if")))).closeForm
  | .print e, p =>
    (printOwned "Print" "expression" e (p.openForm "print")).closeForm
  | .giveBack _ value, p => (printShared value (p.openForm "return")).closeForm
  | .varDecl name initialiser, p =>
    let head := (p.openForm "var").word name.lexeme
    let head := if initialiser.isSome then head.word "=" else head
    (printShared initialiser head).closeForm
  | .loop condition body, p =>
    (printOwnedStmt "While" "body" body
      (printOwned "While" "condition" condition (p.openForm "while"))).closeForm

/-- Prints a function. -/
def Function.printOn : Function → Printer → Printer
  | .mk name params body, p =>
    let head := (p.openForm "fun").word name.lexeme
    let head := head.word ("(" ++ String.intercalate " " (params.map (·.lexeme)) ++ ")")
    (printStmts body head).closeForm

/-- Prints a child statement with one owner. -/
def printOwnedStmt (nodeType field : String) : Option Stmt → Printer → Printer
  | some s, p => p.child fun q => s.printOn q
  | none, p => p.absent nodeType field

/-- Prints a shared child statement, if there is one. -/
def printSharedStmt : Option Stmt → Printer → Printer
  | some s, p => p.child fun q => s.printOn q
  | none, p => p

/-- Prints statements in order. -/
def printStmts : List Stmt → Printer → Printer
  | [], p => p
  | s :: more, p => printStmts more (p.child fun q => s.printOn q)

/-- Prints functions in order. -/
def printFunctions : List Function → Printer → Printer
  | [], p => p
  | f :: more, p => printFunctions more (p.child fun q => f.printOn q)

end

/-- The text of an expression, or its first absent child. -/
def Expr.printed (e : Expr) : Except AbsentChild String :=
  (e.printOn .start).finish

/-- The text of a statement, or its first absent child. -/
def Stmt.printed (s : Stmt) : Except AbsentChild String :=
  (s.printOn .start).finish

/-- The text of a tree, or its first absent child. -/
def Node.printed : Node → Except AbsentChild String
  | .expr e => e.printed
  | .stmt s => s.printed

end TreeSmith.Tree
