import TreeSmith.Template.Expr
import TreeSmith.Template.Value

/-!
# Operations on template values

Operators and comparisons.  What is undefined has no truth and cannot be compared,
joined or calculated with.

## Main definitions

* `Fault` — why a template cannot be rendered.
* `truth` — the truth of a value.
* `operate` — an operator applied to two values.
* `compareValues` — a comparison of two values.
-/

namespace TreeSmith.Template

/-- Why a template cannot be rendered. -/
inductive Fault
  /-- The template is not well formed. -/
  | malformed
  /-- Something undefined is used. -/
  | undefinedValue
  /-- A filter, test or function of this name is not known. -/
  | unknownName (name : String)
  /-- A filter, test or function is given the wrong arguments. -/
  | wrongArguments (name : String)
  /-- An operation does not take the value that it is given. -/
  | wrongValue
  deriving DecidableEq, Repr

/-- The truth of a value; what is undefined has none. -/
def truth : Value → Except Fault Bool
  | .undefined => .error .undefinedValue
  | v => .ok v.isTrue

/-- Nothing, unless the value is undefined and not just left out. -/
def assertDefined : Value → Except Fault Unit
  | .undefined => .error .undefinedValue
  | _ => .ok ()

/-- The part of a value, unless the value itself is undefined. -/
def partOf (v part : Value) : Except Fault Value :=
  if v.isUndefined then .error .undefinedValue else .ok part

/-! ### Arithmetic -/

/-- An operation on two values that are numbers or truth values. -/
def arithmetic (f : Number → Number → Option Number) (v w : Value) : Except Fault Value :=
  match v.number?, w.number? with
  | some a, some b =>
    match f a b with
    | some c => .ok (.number c)
    | none => .error .wrongValue
  | _, _ => .error .wrongValue

/-- A sum of numbers, or texts or lists one after the other. -/
def add (v w : Value) : Except Fault Value :=
  match v, w with
  | .text s, .text t => .ok (.text (s ++ t))
  | _, _ =>
    match v.sequence?, w.sequence? with
    | some xs, some ys => .ok (.stream (xs ++ ys))
    | _, _ => arithmetic Number.add v w

/-- A text several times. -/
def repeatText (s : String) (times : Value) : Except Fault Value :=
  match times.number?.bind Number.count? with
  | some n => .ok (.text (if s = "" then "" else String.join (List.replicate n s)))
  | none => .error .wrongValue

/-- The items of a list several times. -/
def repeatItems (items : List Value) (times : Value) : Except Fault Value :=
  match times.number?.bind Number.count? with
  | some n => .ok (.stream (if items.isEmpty then [] else (List.replicate n items).flatten))
  | none => .error .wrongValue

/-- A product of numbers, or a text or list several times. -/
def multiply (v w : Value) : Except Fault Value :=
  match v, w with
  | .text s, w => repeatText s w
  | v, .text s => repeatText s v
  | v, w =>
    match v.sequence?, w.sequence? with
    | some items, _ => repeatItems items w
    | none, some items => repeatItems items v
    | none, none => arithmetic Number.multiply v w

/-- A number with its sign changed. -/
def negated : Value → Except Fault Value
  | .number a =>
    match a.negate with
    | some b => .ok (.number b)
    | none => .error .wrongValue
  | _ => .error .wrongValue

/-- An operator whose operands are both evaluated. -/
def operate (op : BinaryOp) (v w : Value) : Except Fault Value :=
  match op with
  | .add => add v w
  | .subtract => arithmetic Number.subtract v w
  | .join => do
    assertDefined v
    assertDefined w
    return .text (v.written ++ w.written)
  | .multiply => multiply v w
  | .divide => arithmetic (fun a b => some (a.divide b)) v w
  | .floorDivide => arithmetic Number.floorDivide v w
  | .remainder => arithmetic Number.remainder v w
  | .power => arithmetic Number.power v w
  | .either => .ok w
  | .both => .ok w

/-! ### Comparison -/

/-- Some consecutive characters of the second text are the first. -/
def isPartOf (part : List Char) : List Char → Bool
  | [] => part.isEmpty
  | c :: cs => part.isPrefixOf (c :: cs) || isPartOf part cs

/-- Whether a list has an item, a text has a part, or a map has a key. -/
def contains (container v : Value) : Except Fault Bool :=
  match container with
  | .undefined => .error .undefinedValue
  | .omitted => .ok false
  | .text s => .ok (isPartOf v.written.toList s.toList)
  | .list items => .ok (items.any (·.same v))
  | .stream items => .ok (items.any (·.same v))
  | .map entries => .ok (entries.any fun entry => v.same entry.1)
  | .place _ _ _ _ => .ok false
  | _ => .error .wrongValue

/-- A comparison of two values. -/
def compareValues (c : Comparison) (v w : Value) : Except Fault Bool := do
  assertDefined v
  assertDefined w
  match c with
  | .equal => return v.same w
  | .notEqual => return !v.same w
  | .less => return v.order w == .lt
  | .lessEqual => return v.order w != .gt
  | .greater => return v.order w == .gt
  | .greaterEqual => return v.order w != .lt
  | .isIn => contains w v
  | .isNotIn => return !(← contains w v)

end TreeSmith.Template
