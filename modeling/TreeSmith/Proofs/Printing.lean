import TreeSmith.Tree.Printer

/-!
# What the printer writes

The printer is a walk with a state: the text so far and the first child that it found
absent.  It goes on writing after it found one, so it has to be shown that neither what
was written nor what was found before changes which child is reported, and that nothing
is missing from the text when no child is absent.

Both sides of that are said on the tree alone.  The children that are absent by mistake
come from the declared fields: the traversal goes through the fields of a node in order
and into the children of each, whatever the kind of the node.  The text is a recursive
definition of the prefix form.

One relation between two states, `Printed`, says what a part of the walk did: which
absent children it met and what it wrote if there was none.  It composes, and every
action of the printer has one lemma about it, so a node is a chain of these lemmas.

## Main definitions

* `Node.typeName`, `Field.nodes` — the type of a node, and the children in a field.
* `Node.absences` — the children absent by mistake, depth first in order of declaration.
* `Node.prefixForm` — the text of a tree.
* `Printed` — what a part of the walk did.

## Main results

* `Node.absences_eq` — the traversal, field by field.
* `Expr.printed_printOn`, `Stmt.printed_printOn` — one node.
* `Node.printed_eq_absences` — **the printer reports the first absent child, or else
  gives the prefix form.**
-/

namespace TreeSmith.Tree

/-! ### The traversal -/

/-- The name of the type of an expression. -/
def Expr.typeName : Expr → String
  | .assign .. => "Assign"
  | .binary .. => "Binary"
  | .call .. => "Call"
  | .get .. => "Get"
  | .grouping .. => "Grouping"
  | .literal .. => "Literal"
  | .logical .. => "Logical"
  | .set .. => "Set"
  | .super .. => "Super"
  | .ternary .. => "Ternary"
  | .this .. => "This"
  | .unary .. => "Unary"
  | .variable .. => "Variable"

/-- The name of the type of a statement. -/
def Stmt.typeName : Stmt → String
  | .block .. => "Block"
  | .leave .. => "Break"
  | .classDecl .. => "Class"
  | .expression .. => "Expression"
  | .function .. => "Function"
  | .branch .. => "If"
  | .print .. => "Print"
  | .giveBack .. => "Return"
  | .varDecl .. => "Var"
  | .loop .. => "While"

/-- The name of the type of a node. -/
def Node.typeName : Node → String
  | .expr e => e.typeName
  | .stmt s => s.typeName

/-- The children in a field, in order. -/
def Field.nodes : Field → List Node
  | .owned (.ok child) => [child]
  | .shared (some child) => [child]
  | .children nodes => nodes
  | _ => []

/-- The field is that of a child with one owner which is not there. -/
def Field.isAbsent : Field → Bool
  | .owned (.error _) => true
  | _ => false

section Fields

variable (nodeType field : String)

@[simp] theorem Field.nodes_token (t : Token) : (Field.token t).nodes = [] := rfl

@[simp] theorem Field.nodes_tokens (ts : List Token) : (Field.tokens ts).nodes = [] := rfl

@[simp] theorem Field.nodes_literal (v : Literal) : (Field.literal v).nodes = [] := rfl

@[simp] theorem Field.nodes_children (nodes : List Node) : (Field.children nodes).nodes = nodes :=
  rfl

@[simp] theorem Field.nodes_shared (child : Option Node) :
    (Field.shared child).nodes = child.toList := by
  cases child <;> rfl

@[simp] theorem Field.nodes_sharedExpr (child : Option Expr) :
    (Field.sharedExpr child).nodes = child.toList.map .expr := by
  cases child <;> rfl

@[simp] theorem Field.nodes_ownedExpr (child : Option Expr) :
    (Field.ownedExpr nodeType field child).nodes = child.toList.map .expr := by
  cases child <;> rfl

@[simp] theorem Field.nodes_ownedStmt (child : Option Stmt) :
    (Field.ownedStmt nodeType field child).nodes = child.toList.map .stmt := by
  cases child <;> rfl

end Fields

/-- A child of a node is smaller than the node. -/
theorem sizeOf_lt_of_mem_nodes {n c : Node} (hc : c ∈ n.fields.flatMap (·.2.nodes)) :
    sizeOf c < sizeOf n := by
  -- the kinds without children are closed at once; a child in a list is smaller than the list
  cases n with
  | expr e =>
    cases e <;> simp [Node.fields, Expr.fields] at hc
    case assign | get | grouping | unary =>
      obtain ⟨e, rfl, rfl⟩ := hc
      simp +arith
    case binary | logical | set =>
      rcases hc with ⟨e, rfl, rfl⟩ | ⟨e, rfl, rfl⟩ <;> simp +arith
    case ternary =>
      rcases hc with ⟨e, rfl, rfl⟩ | ⟨e, rfl, rfl⟩ | ⟨e, rfl, rfl⟩ <;> simp +arith
    case call =>
      rcases hc with ⟨e, rfl, rfl⟩ | ⟨e, he, rfl⟩
      · simp +arith
      · have hlt := List.sizeOf_lt_of_mem he
        simp; omega
  | stmt s =>
    cases s <;> simp [Node.fields, Stmt.fields] at hc
    case expression | print | giveBack | varDecl =>
      obtain ⟨e, rfl, rfl⟩ := hc
      simp +arith
    case loop =>
      rcases hc with ⟨e, rfl, rfl⟩ | ⟨s, rfl, rfl⟩ <;> simp +arith
    case branch =>
      rcases hc with ⟨e, rfl, rfl⟩ | ⟨s, rfl, rfl⟩ | ⟨s, rfl, rfl⟩ <;> simp +arith
    case block =>
      obtain ⟨s, hs, rfl⟩ := hc
      have hlt := List.sizeOf_lt_of_mem hs
      simp; omega
    case function f =>
      obtain ⟨s, hs, rfl⟩ := hc
      have hlt := List.sizeOf_lt_of_mem hs
      cases f
      simp [Function.body] at hlt ⊢; omega
    case classDecl =>
      rcases hc with ⟨v, rfl, rfl⟩ | ⟨f, hf, rfl⟩
      · simp +arith
      · have hlt := List.sizeOf_lt_of_mem hf
        simp; omega

/-- The children absent by mistake: the fields of a node in order of declaration, and
for each field the child that is not there, or else what is absent below the children
that are. -/
def Node.absences (n : Node) : List AbsentChild :=
  n.fields.attach.flatMap fun f =>
    if f.1.2.isAbsent then [⟨n.typeName, f.1.1⟩]
    else f.1.2.nodes.attach.flatMap fun c => c.1.absences
termination_by sizeOf n
decreasing_by exact sizeOf_lt_of_mem_nodes (List.mem_flatMap.mpr ⟨f.1, f.2, c.2⟩)

/-- What is absent in a field of a node, or below it. -/
def Field.absences (nodeType name : String) (f : Field) : List AbsentChild :=
  if f.isAbsent then [⟨nodeType, name⟩] else f.nodes.flatMap Node.absences

/-- **The traversal, field by field.** -/
theorem Node.absences_eq (n : Node) :
    n.absences = n.fields.flatMap fun f => f.2.absences n.typeName f.1 := by
  rw [Node.absences]
  simp only [Field.absences, List.flatMap_subtype, List.unattach_attach]

/-! ### The prefix form -/

/-- Words between parentheses. -/
def form (words : List String) : String :=
  "(" ++ String.intercalate " " words ++ ")"

mutual

/-- The prefix form of an expression. -/
def Expr.prefixForm : Expr → String
  | .assign name value => form ("=" :: name.lexeme :: prefixExpr? value)
  | .binary left op right => form (op.lexeme :: (prefixExpr? left ++ prefixExpr? right))
  | .call callee _ arguments => form ("call" :: (prefixExpr? callee ++ prefixExprs arguments))
  | .get object name => form ("." :: (prefixExpr? object ++ [name.lexeme]))
  | .grouping expression => form ("group" :: prefixExpr? expression)
  | .literal value => value.written
  | .logical left op right => form (op.lexeme :: (prefixExpr? left ++ prefixExpr? right))
  | .set object name value =>
    form ("=" :: (prefixExpr? object ++ name.lexeme :: prefixExpr? value))
  | .super _ method => form ["super", method.lexeme]
  | .ternary first second third =>
    form ("?:" :: (prefixExpr? first ++ prefixExpr? second ++ prefixExpr? third))
  | .this _ => "this"
  | .unary op right => form (op.lexeme :: prefixExpr? right)
  | .variable v => v.name.lexeme

/-- The prefix form of a child expression, if there is one. -/
def prefixExpr? : Option Expr → List String
  | none => []
  | some e => [e.prefixForm]

/-- The prefix forms of expressions. -/
def prefixExprs : List Expr → List String
  | [] => []
  | e :: more => e.prefixForm :: prefixExprs more

end

mutual

/-- The prefix form of a statement. -/
def Stmt.prefixForm : Stmt → String
  | .block statements => form ("block" :: prefixStmts statements)
  | .leave _ => form ["break"]
  | .classDecl name superclass methods =>
    let above := superclass.toList.flatMap fun v => ["<", v.name.lexeme]
    form ("class" :: name.lexeme :: (above ++ prefixFunctions methods))
  | .expression e => form (";" :: prefixExpr? e)
  | .function f => f.prefixForm
  | .branch condition thenBranch elseBranch =>
    form ("if" :: (prefixExpr? condition ++ prefixStmt? thenBranch ++ prefixStmt? elseBranch))
  | .print e => form ("print" :: prefixExpr? e)
  | .giveBack _ value => form ("return" :: prefixExpr? value)
  | .varDecl name none => form ["var", name.lexeme]
  | .varDecl name (some e) => form ["var", name.lexeme, "=", e.prefixForm]
  | .loop condition body => form ("while" :: (prefixExpr? condition ++ prefixStmt? body))

/-- The prefix form of a function. -/
def Function.prefixForm : Function → String
  | .mk name params body =>
    let list := "(" ++ String.intercalate " " (params.map (·.lexeme)) ++ ")"
    form ("fun" :: name.lexeme :: list :: prefixStmts body)

/-- The prefix form of a child statement, if there is one. -/
def prefixStmt? : Option Stmt → List String
  | none => []
  | some s => [s.prefixForm]

/-- The prefix forms of statements. -/
def prefixStmts : List Stmt → List String
  | [] => []
  | s :: more => s.prefixForm :: prefixStmts more

/-- The prefix forms of functions. -/
def prefixFunctions : List Function → List String
  | [] => []
  | f :: more => f.prefixForm :: prefixFunctions more

end

/-- The prefix form of a tree. -/
def Node.prefixForm : Node → String
  | .expr e => e.prefixForm
  | .stmt s => s.prefixForm

/-! ### What a part of the walk did -/

/-- Words with a space before each. -/
def spaced (words : List String) : String :=
  String.join (words.map (" " ++ ·))

@[simp] theorem spaced_nil : spaced [] = "" := rfl

@[simp] theorem spaced_cons (w : String) (words : List String) :
    spaced (w :: words) = " " ++ w ++ spaced words := by
  simp [spaced]

@[simp] theorem spaced_append (a b : List String) : spaced (a ++ b) = spaced a ++ spaced b := by
  simp [spaced]

theorem form_cons (w : String) (words : List String) :
    form (w :: words) = "(" ++ w ++ spaced words ++ ")" := by
  have h : ∀ u, String.intercalate " " (u :: words) = u ++ spaced words := by
    induction words with
    | nil => simp
    | cons v words ih => intro u; simp [ih, String.append_assoc]
  rw [form, h, ← String.append_assoc]

/-- Between two states of the printer the walk met some absent children in order, and
it wrote a text if there was none, neither before nor among these. -/
structure Printed (p q : Printer) (faults : List AbsentChild) (text : String) : Prop where
  /-- What was found first stays, and else the first of these is found. -/
  fault : q.fault = p.fault.or faults.head?
  /-- Without a fault the text goes to the end. -/
  out : p.fault = none → faults = [] → q.out = p.out ++ text

namespace Printed

variable {p q r : Printer} {fs gs : List AbsentChild} {s t : String}

theorem refl (p : Printer) : Printed p p [] "" :=
  ⟨by simp, fun _ _ => by simp⟩

/-- One part of the walk after another. -/
theorem trans (h : Printed p q fs s) (h' : Printed q r gs t) :
    Printed p r (fs ++ gs) (s ++ t) where
  fault := by rw [h'.fault, h.fault, Option.or_assoc, List.head?_append]
  out := by
    intro hp hfs
    obtain ⟨rfl, rfl⟩ := List.append_eq_nil_iff.mp hfs
    have hq : q.fault = none := by rw [h.fault, hp]; rfl
    rw [h'.out hq rfl, h.out hp rfl, String.append_assoc]

theorem write (p : Printer) (s : String) : Printed p (p.write s) [] s :=
  ⟨by simp [Printer.write], fun _ _ => rfl⟩

/-- The same part of the walk, described in other words. -/
theorem of_eq {fs' : List AbsentChild} {s' : String} (h : Printed p q fs s) (hfs : fs = fs')
    (hs : s = s') : Printed p q fs' s' :=
  hfs ▸ hs ▸ h

theorem word (p : Printer) (w : String) : Printed p (p.word w) [] (spaced [w]) :=
  ((write p " ").trans (write _ w)).of_eq rfl (by simp)

/-- Words after words. -/
theorem andThen {a b : List String} (h : Printed p q fs (spaced a))
    (h' : Printed q r gs (spaced b)) : Printed p r (fs ++ gs) (spaced (a ++ b)) :=
  (h.trans h').of_eq rfl (spaced_append a b).symm

/-- Going into a child writes what the child writes, unless something was absent. -/
theorem child (p : Printer) {visit : Printer → Printer} (h : ∀ q, Printed q (visit q) fs s) :
    Printed p (p.child visit) fs (spaced [s]) := by
  unfold Printer.child
  split
  · next a ha => exact ⟨by simp [ha], fun hp => by simp [ha] at hp⟩
  · simpa using (write p " ").trans (h _)

/-- A child that is absent is reported, unless something was absent before. -/
theorem absent (p : Printer) (nodeType field s : String) :
    Printed p (p.absent nodeType field) [⟨nodeType, field⟩] s := by
  unfold Printer.absent
  split
  · next a ha => exact ⟨by simp [ha], by simp⟩
  · next ha => exact ⟨by simp [ha], by simp⟩

/-- What stands between an opening and its closing makes a form. -/
theorem form {name : String} {words : List String}
    (h : Printed (p.openForm name) q fs (spaced words)) :
    Printed p q.closeForm fs (Tree.form (name :: words)) := by
  have hopen : Printed p (p.openForm name) [] ("(" ++ name) := (write p "(").trans (write _ name)
  have hall := (hopen.trans h).trans (write q ")")
  rwa [List.nil_append, List.append_nil, ← form_cons] at hall

end Printed

/-! ### Expressions -/

section FieldAbsences

variable (nodeType field : String)

@[simp] theorem Field.absences_token (t : Token) :
    (Field.token t).absences nodeType field = [] := rfl

@[simp] theorem Field.absences_tokens (ts : List Token) :
    (Field.tokens ts).absences nodeType field = [] := rfl

@[simp] theorem Field.absences_literal (v : Literal) :
    (Field.literal v).absences nodeType field = [] := rfl

@[simp] theorem Field.absences_children (nodes : List Node) :
    (Field.children nodes).absences nodeType field = nodes.flatMap Node.absences := rfl

@[simp] theorem Field.absences_shared (child : Option Node) :
    (Field.shared child).absences nodeType field = child.toList.flatMap Node.absences := by
  cases child <;> rfl

end FieldAbsences

attribute [local simp] Node.fields Node.typeName Expr.fields Expr.typeName Expr.prefixForm
  prefixExpr? prefixExprs

mutual

/-- **An expression is printed** with the absent children of the traversal. -/
theorem Expr.printed_printOn (e : Expr) (p : Printer) :
    Printed p (e.printOn p) (Node.expr e).absences e.prefixForm := by
  rw [Node.absences_eq]
  match e with
  | .assign name value =>
    exact ((Printed.word _ _).andThen (printed_printOwned "Assign" "value" value _)).form.of_eq
      (by simp) (by simp)
  | .binary left op right =>
    exact ((printed_printOwned "Binary" "left" left _).andThen
      (printed_printOwned "Binary" "right" right _)).form.of_eq (by simp) (by simp)
  | .call callee _ arguments =>
    exact ((printed_printOwned "Call" "callee" callee _).andThen
      (printed_printExprs arguments _)).form.of_eq (by simp) (by simp)
  | .get object name =>
    exact ((printed_printOwned "Get" "object" object _).andThen (.word _ _)).form.of_eq
      (by simp) (by simp)
  | .grouping expression =>
    exact (printed_printOwned "Grouping" "expression" expression _).form.of_eq (by simp) (by simp)
  | .literal value => exact (Printed.write p value.written).of_eq (by simp) (by simp)
  | .logical left op right =>
    exact ((printed_printOwned "Logical" "left" left _).andThen
      (printed_printOwned "Logical" "right" right _)).form.of_eq (by simp) (by simp)
  | .set object name value =>
    exact ((printed_printOwned "Set" "object" object _).andThen
      ((Printed.word _ _).andThen (printed_printOwned "Set" "value" value _))).form.of_eq
      (by simp) (by simp)
  | .super _ method => exact (Printed.word _ method.lexeme).form.of_eq (by simp) (by simp)
  | .ternary first second third =>
    exact (((printed_printOwned "Ternary" "first" first _).andThen
      (printed_printOwned "Ternary" "second" second _)).andThen
      (printed_printOwned "Ternary" "third" third _)).form.of_eq (by simp) (by simp)
  | .this _ => exact (Printed.write p "this").of_eq (by simp) (by simp)
  | .unary op right =>
    exact (printed_printOwned "Unary" "right" right _).form.of_eq (by simp) (by simp)
  | .variable v => exact (Printed.write p v.name.lexeme).of_eq (by simp) (by simp)

/-- A child expression with one owner is printed, or reported. -/
theorem printed_printOwned (nodeType field : String) (child : Option Expr) (p : Printer) :
    Printed p (printOwned nodeType field child p)
      ((Field.ownedExpr nodeType field child).absences nodeType field)
      (spaced (prefixExpr? child)) := by
  match child with
  | none => exact Printed.absent p nodeType field _
  | some e =>
    exact (Printed.child p e.printed_printOn).of_eq
      (by simp [Field.absences, Field.ownedExpr, Field.isAbsent, Field.nodes]) (by simp)

/-- Expressions are printed in order. -/
theorem printed_printExprs (es : List Expr) (p : Printer) :
    Printed p (printExprs es p) ((es.map Node.expr).flatMap Node.absences)
      (spaced (prefixExprs es)) := by
  match es with
  | [] => exact Printed.refl p
  | e :: more =>
    exact ((Printed.child p e.printed_printOn).andThen (printed_printExprs more _)).of_eq
      (by simp) (by simp)

end

/-- A shared child expression is printed, if there is one. -/
theorem printed_printShared (child : Option Expr) (p : Printer) :
    Printed p (printShared child p) ((child.map Node.expr).toList.flatMap Node.absences)
      (spaced (prefixExpr? child)) := by
  cases child with
  | none => exact Printed.refl p
  | some e => exact (Printed.child p e.printed_printOn).of_eq (by simp) (by simp)

/-! ### Statements -/

attribute [local simp] Stmt.fields Stmt.typeName Stmt.prefixForm Function.prefixForm prefixStmt?
  prefixStmts prefixFunctions Field.sharedExpr

/-- A use of a variable has nothing below it. -/
theorem absences_variable (v : Variable) : (Node.expr (.variable v)).absences = [] := by
  simp [Node.absences_eq]

mutual

/-- **A statement is printed** with the absent children of the traversal. -/
theorem Stmt.printed_printOn (s : Stmt) (p : Printer) :
    Printed p (s.printOn p) (Node.stmt s).absences s.prefixForm := by
  rw [Node.absences_eq]
  match s with
  | .block statements =>
    exact (printed_printStmts statements _).form.of_eq (by simp) (by simp)
  | .leave _ =>
    exact (Printed.write p "(break)").of_eq (by simp) rfl
  | .classDecl name superclass methods =>
    -- a superclass is written as its name, so the traversal must find nothing below it
    cases superclass with
    | none =>
      exact ((Printed.word _ _).andThen (printed_printFunctions methods _)).form.of_eq
        (by simp) (by simp)
    | some v =>
      exact ((Printed.word _ _).andThen ((Printed.word _ _).andThen ((Printed.word _ _).andThen
        (printed_printFunctions methods _)))).form.of_eq (by simp [absences_variable]) (by simp)
  | .expression e =>
    exact (printed_printOwned "Expression" "expression" e _).form.of_eq (by simp) (by simp)
  | .function f =>
    -- a function is printed in the same way as a method, which is no node of its own
    rw [← Node.absences_eq]
    exact f.printed_printOn p
  | .branch condition thenBranch elseBranch =>
    exact (((printed_printOwned "If" "condition" condition _).andThen
      (printed_printOwnedStmt "If" "then_branch" thenBranch _)).andThen
      (printed_printSharedStmt elseBranch _)).form.of_eq (by simp) (by simp)
  | .print e =>
    exact (printed_printOwned "Print" "expression" e _).form.of_eq (by simp) (by simp)
  | .giveBack _ value =>
    exact (printed_printShared value _).form.of_eq (by simp) (by simp)
  | .varDecl name none =>
    exact (Printed.word _ _).form.of_eq (by simp) (by simp)
  | .varDecl name (some e) =>
    exact ((Printed.word _ _).andThen ((Printed.word _ _).andThen
      (printed_printShared (some e) _))).form.of_eq (by simp) (by simp)
  | .loop condition body =>
    exact ((printed_printOwned "While" "condition" condition _).andThen
      (printed_printOwnedStmt "While" "body" body _)).form.of_eq (by simp) (by simp)

/-- A function is printed with what is absent in its body. -/
theorem Function.printed_printOn (f : Function) (p : Printer) :
    Printed p (f.printOn p) (Node.stmt (.function f)).absences f.prefixForm := by
  rw [Node.absences_eq]
  match f with
  | .mk name params body =>
    exact ((Printed.word _ _).andThen ((Printed.word _ _).andThen
      (printed_printStmts body _))).form.of_eq (by simp [Function.body]) (by simp)

/-- A child statement with one owner is printed, or reported. -/
theorem printed_printOwnedStmt (nodeType field : String) (child : Option Stmt) (p : Printer) :
    Printed p (printOwnedStmt nodeType field child p)
      ((Field.ownedStmt nodeType field child).absences nodeType field)
      (spaced (prefixStmt? child)) := by
  match child with
  | none => exact Printed.absent p nodeType field _
  | some s =>
    exact (Printed.child p s.printed_printOn).of_eq
      (by simp [Field.absences, Field.ownedStmt, Field.isAbsent, Field.nodes]) (by simp)

/-- A shared child statement is printed, if there is one. -/
theorem printed_printSharedStmt (child : Option Stmt) (p : Printer) :
    Printed p (printSharedStmt child p) ((child.map Node.stmt).toList.flatMap Node.absences)
      (spaced (prefixStmt? child)) := by
  match child with
  | none => exact Printed.refl p
  | some s => exact (Printed.child p s.printed_printOn).of_eq (by simp) (by simp)

/-- Statements are printed in order. -/
theorem printed_printStmts (ss : List Stmt) (p : Printer) :
    Printed p (printStmts ss p) ((ss.map Node.stmt).flatMap Node.absences)
      (spaced (prefixStmts ss)) := by
  match ss with
  | [] => exact Printed.refl p
  | s :: more =>
    exact ((Printed.child p s.printed_printOn).andThen (printed_printStmts more _)).of_eq
      (by simp) (by simp)

/-- Functions are printed in order. -/
theorem printed_printFunctions (fs : List Function) (p : Printer) :
    Printed p (printFunctions fs p)
      ((fs.map fun f => Node.stmt (.function f)).flatMap Node.absences)
      (spaced (prefixFunctions fs)) := by
  match fs with
  | [] => exact Printed.refl p
  | f :: more =>
    exact ((Printed.child p f.printed_printOn).andThen (printed_printFunctions more _)).of_eq
      (by simp) (by simp)

end

/-! ### Trees -/

/-- Prints a tree. -/
def Node.printOn : Node → Printer → Printer
  | .expr e => e.printOn
  | .stmt s => s.printOn

theorem Node.printed_printOn (n : Node) (p : Printer) :
    Printed p (n.printOn p) n.absences n.prefixForm := by
  cases n with
  | expr e => exact e.printed_printOn p
  | stmt s => exact s.printed_printOn p

/-- **The printer reports the first absent child, or else gives the prefix form.**  The
children absent by mistake are those of the traversal, so an absent shared child is
none of them.  Whatever was written before, a walk ends with the fault that it started
with, or else with the first absent child of the tree. -/
theorem Node.printed_eq_absences (n : Node) :
    n.printed = (match n.absences with
      | [] => .ok n.prefixForm
      | a :: _ => .error a) ∧
    ∀ p : Printer, (n.printOn p).fault = p.fault.or n.absences.head? := by
  refine ⟨?_, fun p => (n.printed_printOn p).fault⟩
  have hrun : n.printed = (n.printOn .start).finish := by cases n <;> rfl
  have hwalk := n.printed_printOn .start
  rw [hrun, Printer.finish, hwalk.fault]
  cases habs : n.absences with
  | nil =>
    have hout := hwalk.out rfl habs
    simpa [Printer.start] using hout
  | cons a more => rfl

end TreeSmith.Tree
