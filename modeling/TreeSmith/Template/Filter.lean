import TreeSmith.Template.Operation
import TreeSmith.Text.LetterCase

/-!
# Filters and tests

What can be applied to a value by name: filters that give another value, and tests
that hold of it or not.  Each takes a fixed number of further arguments; one that may
be left out may also be given as undefined or absent.

## Main definitions

* `applyFilter` — a filter by its name.
* `applyTest` — a test by its name.
-/

namespace TreeSmith.Template

/-- An argument that may be left out. -/
def optionalArg : Option Value → Option Value
  | some .undefined => none
  | some .omitted => none
  | some .none => none
  | arg => arg

/-! ### Filters -/

/-- The text of a value, unless it is undefined. -/
def textOf (v : Value) : Except Fault String :=
  if v.isUndefined then .error .undefinedValue else .ok v.written

/-- The items of a value as texts with a separator between them. -/
def joinItems (separator : Option Value) (v : Value) : Except Fault Value :=
  if v.isUndefined then .ok (.text "")
  else
    match v, v.items? with
    | .none, _ => .ok (.text "")
    | _, some items =>
      let separator := (separator.map Value.written).getD ""
      .ok (.text (separator.intercalate (items.map Value.written)))
    | _, none => .error .wrongValue

/-- How many items, characters or entries a value has. -/
def lengthOf (v : Value) : Except Fault Value :=
  match v.items? with
  | some items => .ok (.count items.length)
  | none => .error .wrongValue

/-- The value, or a replacement if it is undefined or, when `always` says so, false. -/
def replaceMissing (replacement always : Option Value) (v : Value) : Except Fault Value :=
  let other := replacement.getD (.text "")
  match always with
  | none => .ok (if v.isUndefined then other else v)
  | some (.bool b) => .ok (if v.isUndefined || (b && !v.isTrue) then other else v)
  | some _ => .error (.wrongArguments "default")

/-- A filter by its name. -/
def applyFilter (name : String) (v : Value) (args : List Value) : Except Fault Value :=
  if name = "join" then
    if 1 < args.length then .error (.wrongArguments name)
    else joinItems (optionalArg args[0]?) v
  else if name = "upper" then
    if !args.isEmpty then .error (.wrongArguments name)
    else (textOf v).map fun s => .text (Text.uppercase s)
  else if name = "lower" then
    if !args.isEmpty then .error (.wrongArguments name)
    else (textOf v).map fun s => .text (Text.lowercase s)
  else if name = "length" || name = "count" then
    if !args.isEmpty then .error (.wrongArguments name) else lengthOf v
  else if name = "default" || name = "d" then
    if 2 < args.length then .error (.wrongArguments name)
    else replaceMissing (optionalArg args[0]?) (optionalArg args[1]?) v
  else .error (.unknownName name)

/-! ### Tests -/

/-- A test without further arguments. -/
def plainTest? (name : String) : Option (Value → Bool) :=
  match name with
  | "defined" => some fun v => !v.isUndefined
  | "undefined" => some Value.isUndefined
  | "none" => some fun
    | .none => true
    | _ => false
  | "true" => some fun
    | .bool b => b
    | _ => false
  | "false" => some fun
    | .bool b => !b
    | _ => false
  | "boolean" => some fun
    | .bool _ => true
    | _ => false
  | "string" => some fun
    | .text _ => true
    | _ => false
  | "number" => some fun
    | .number _ => true
    | _ => false
  | "integer" | "int" => some fun
    | .number (.float _) => false
    | .number _ => true
    | _ => false
  | "float" => some fun
    | .number (.float _) => true
    | _ => false
  | "sequence" => some fun
    | .list _ => true
    | _ => false
  | "mapping" => some fun
    | .map _ => true
    | _ => false
  | "iterable" => some fun v => v.items?.isSome
  | "odd" => some fun v => v.index?.any fun n => n % 2 != 0
  | "even" => some fun v => v.index?.any fun n => n % 2 == 0
  | _ => none

/-- A test that compares with its argument. -/
def comparingTest? (name : String) : Option Comparison :=
  match name with
  | "eq" | "equalto" | "==" => some .equal
  | "ne" | "!=" => some .notEqual
  | "lt" | "lessthan" | "<" => some .less
  | "le" | "<=" => some .lessEqual
  | "gt" | "greaterthan" | ">" => some .greater
  | "ge" | ">=" => some .greaterEqual
  | "in" => some .isIn
  | _ => none

/-- A test by its name. -/
def applyTest (name : String) (v : Value) (args : List Value) : Except Fault Bool :=
  match plainTest? name, comparingTest? name, args with
  | some test, _, [] => .ok (test v)
  | none, some c, [w] => compareValues c v w
  | none, none, _ => .error (.unknownName name)
  | _, _, _ => .error (.wrongArguments name)

end TreeSmith.Template
