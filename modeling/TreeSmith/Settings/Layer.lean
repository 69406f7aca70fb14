import TreeSmith.Decimal.Reading
import TreeSmith.Text.LetterCase
import TreeSmith.Toml.Table

/-!
# Layers of settings

Settings come in layers, each a table of keys that are compared in lower case.  A
layer is put on top of others key by key: a table goes into the table below, and
anything else takes the place of what is below.  A key may also be a path of keys
and positions.

## Main definitions

* `Setting`, `Setting.ofToml` — what stands under a key.
* `Setting.assign`, `Setting.assignAll` — one key, and all keys of a table.
* `Step`, `readPath?`, `Setting.assignAt` — paths.
* `Setting.addLayer`, `Setting.environmentLayer` — a layer on top, and that of the
  environment.
-/

namespace TreeSmith

/-- What stands under a key. -/
inductive Setting
  /-- Nothing. -/
  | unset
  /-- A text. -/
  | text (s : String)
  /-- A number, a truth value or a date. -/
  | scalar (s : Toml.Scalar)
  /-- A list. -/
  | list (items : List Setting)
  /-- Settings by keys. -/
  | table (entries : List (String × Setting))
  deriving Inhabited

namespace Setting

mutual

/-- The setting of a value. -/
def ofToml : Toml.Value → Setting
  | .text s => .text s
  | .scalar s => .scalar s
  | .array items => .list (ofTomlItems items)
  | .table entries => .table (ofTomlEntries entries)

/-- The settings of a list. -/
def ofTomlItems : List Toml.Value → List Setting
  | [] => []
  | v :: more => ofToml v :: ofTomlItems more

/-- The settings of a table. -/
def ofTomlEntries : List (String × Toml.Value) → List (String × Setting)
  | [] => []
  | (key, v) :: more => (key, ofToml v) :: ofTomlEntries more

end

/-- The keys of a table; anything else has none. -/
def entries : Setting → List (String × Setting)
  | .table es => es
  | _ => []

/-- The items of a list; anything else has none. -/
def items : Setting → List Setting
  | .list vs => vs
  | _ => []

/-- What stands under a key. -/
def find? (key : String) (es : List (String × Setting)) : Option Setting :=
  (es.find? (·.1 == key)).map (·.2)

/-- The table with something under a key. -/
def put (key : String) (v : Setting) : List (String × Setting) → List (String × Setting)
  | [] => [(key, v)]
  | e :: more => if e.1 = key then (key, v) :: more else e :: put key v more

mutual

/-- Puts a setting under a key: a table goes into what is there, and anything else
takes its place. -/
def assign (key : String) : Setting → List (String × Setting) → List (String × Setting)
  | .table incoming, es =>
    let key := Text.lowercase key
    put key (assignAll incoming ((find? key es).getD (.table []))) es
  | v, es => put (Text.lowercase key) v es

/-- Puts all settings of a table into what is there. -/
def assignAll : List (String × Setting) → Setting → Setting
  | [], target => target
  | (key, v) :: more, target => assignAll more (.table (assign key v target.entries))

end

/-! ### Paths -/

/-- One step of a path. -/
inductive Step
  /-- Into the table, to a key. -/
  | key (name : String)
  /-- Into the list, to a position; below zero it counts from the end. -/
  | index (n : Int)
  deriving DecidableEq, Repr

/-- A character of a name in a path. -/
def isPathChar (c : Char) : Bool :=
  c.isAlphanum || c == ' ' || c == '_' || c == '-'

/-- A position in brackets, after the opening one. -/
def readIndex (cs : List Char) : Option (Int × List Char) := do
  let isSpace (c : Char) : Bool := c == ' ' || c == '\t'
  let cs := cs.dropWhile isSpace
  let (negative, cs) :=
    match cs with
    | '-' :: cs => (true, cs)
    | _ => (false, cs)
  let digits := cs.takeWhile Char.isDigit
  if digits.isEmpty then none
  let n ← int64? (if negative then -(digitsValue digits : Int) else digitsValue digits)
  match (cs.dropWhile Char.isDigit).dropWhile isSpace with
  | ']' :: rest => return (n, rest)
  | _ => none

/-- A name of a path. -/
def readName (cs : List Char) : Option (String × List Char) :=
  let name := cs.takeWhile isPathChar
  if name.isEmpty then none else some (String.ofList name, cs.dropWhile isPathChar)

/-- The steps after the first name of a path. -/
def readSteps : Nat → List Char → Option (List Step)
  | _, [] => some []
  | 0, _ => none
  | fuel + 1, '.' :: cs => do
    let (name, rest) ← readName cs
    let steps ← readSteps fuel rest
    return .key name :: steps
  | fuel + 1, '[' :: cs => do
    let (n, rest) ← readIndex cs
    let steps ← readSteps fuel rest
    return .index n :: steps
  | _, _ => none

/-- A path: a name, then names after dots and positions in brackets. -/
def readPath? (s : String) : Option (List Step) := do
  let (name, rest) ← readName s.toList
  let steps ← readSteps rest.length rest
  return .key name :: steps

/-- The place of a position in a list. -/
def position (n : Int) (length : Nat) : Nat :=
  if 0 ≤ n then n.toNat else length - n.natAbs

/-- The list with an item at a place, up to which it is filled if need be. -/
def putAt (vs : List Setting) (place : Nat) (v : Setting) : List Setting :=
  (vs ++ List.replicate (place + 1 - vs.length) Setting.unset).set place v

/-- Puts a setting at the end of a path; what stands on the way and is no table or no
list becomes one. -/
def assignAt (v : Setting) : List Step → Setting → Setting
  | [], current => current
  | [.key name], current => .table (assign name v current.entries)
  | .key name :: more, current =>
    let name := Text.lowercase name
    let inner := (find? name current.entries).getD .unset
    .table (put name (assignAt v more inner) current.entries)
  | [.index n], current =>
    .list (putAt current.items (position n current.items.length) v)
  | .index n :: more, current =>
    let place := position n current.items.length
    .list (putAt current.items place (assignAt v more (current.items.getD place .unset)))

/-! ### Layers -/

/-- Puts a setting under a key that may be a path. -/
def assignKey (current : Setting) (entry : String × Setting) : Setting :=
  match readPath? entry.1 with
  | some path => assignAt entry.2 path current
  | none => .table (assign entry.1 entry.2 current.entries)

/-- Puts a layer on top. -/
def addLayer (current : Setting) (layer : List (String × Setting)) : Setting :=
  layer.foldl assignKey current

/-- What the names of variables for settings start with. -/
def variableStart : List Char := "astgen__".toList

/-- Two underscores in a row are a dot. -/
def dotted : List Char → List Char
  | '_' :: '_' :: cs => '.' :: dotted cs
  | c :: cs => c :: dotted cs
  | [] => []

/-- The key of a variable, if it is one for settings. -/
def variableKey? (name : String) : Option String :=
  let cs := (Text.lowercase name).toList
  if variableStart.isPrefixOf cs then
    some (String.ofList (dotted (cs.drop variableStart.length)))
  else none

/-- The setting of a variable: a truth value, an integer, a decimal or a text. -/
def ofVariable (value : String) : Setting :=
  match Text.lowercase value with
  | "true" => .scalar (.bool true)
  | "false" => .scalar (.bool false)
  | _ =>
    match readInt64? value.toList with
    | some n => .scalar (.integer n)
    | none =>
      match readFloat? value.toList with
      | some x => .scalar (.float x.toBits)
      | none => .text value

/-- The layer of the environment. -/
def environmentLayer (environment : List (String × String)) : List (String × Setting) :=
  environment.filterMap fun (name, value) =>
    (variableKey? name).map fun key => (key, ofVariable value)

end Setting

end TreeSmith
