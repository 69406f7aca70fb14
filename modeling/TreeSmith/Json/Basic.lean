/-!
# JSON values

Members of an object stay in the order of the text and may repeat a key.  A
string whose escapes name half of a surrogate pair alone is legal JSON and has no
text; it is kept as such, both as a value and as a key.

## Main definitions

* `Json` — the values.
* `Json.record`, `Json.text` — objects from named values, and text.
* `Json.member?` — the value under a key.
* `Json.fields?` — the known fields of a record given as an object or a list.
* `Json.render` — a value as JSON text.
-/

namespace TreeSmith

/-- A JSON value. -/
inductive Json
  /-- The null value. -/
  | null
  /-- A truth value. -/
  | bool (b : Bool)
  /-- The number `mantissa · 10 ^ exponent`. -/
  | number (mantissa exponent : Int)
  /-- A string with its text. -/
  | string (text : String)
  /-- A string with half of a surrogate pair alone, which has no text. -/
  | textless
  /-- A list. -/
  | array (items : List Json)
  /-- An object; a key without text is `none`. -/
  | object (members : List (Option String × Json))
  deriving Repr, Inhabited

namespace Json

/-- An integer. -/
def int (n : Int) : Json := .number n 0

/-- A natural number. -/
def nat (n : Nat) : Json := .number n 0

/-- An object from named values. -/
def record (members : List (String × Json)) : Json :=
  .object (members.map fun (name, value) => (some name, value))

/-- A list of strings. -/
def strings (items : List String) : Json :=
  .array (items.map .string)

/-- A string, or null in its absence. -/
def optional : Option String → Json
  | none => .null
  | some s => .string s

/-- The value under a key of an object, the last one if the key repeats. -/
def member? (key : String) : Json → Option Json
  | .object members => (members.reverse.find? fun m => m.1 == some key).map (·.2)
  | _ => none

/-- The text of a string. -/
def string? : Json → Option String
  | .string s => some s
  | _ => none

/-- A truth value. -/
def bool? : Json → Option Bool
  | .bool b => some b
  | _ => none

/-- The items of a list. -/
def array? : Json → Option (List Json)
  | .array items => some items
  | _ => none

/-- The texts of a list of strings. -/
def strings? (j : Json) : Option (List String) :=
  j.array?.bind fun items => items.mapM string?

/-- The values of a list of records in the order of `names`: each name of an
object at most once, with a text on every key. -/
def objectFields? (names : List String) (members : List (Option String × Json)) :
    Option (List (Option Json)) :=
  if members.any (·.1.isNone) then none
  else
    names.mapM fun name =>
      match members.filter (·.1 == some name) with
      | [] => some none
      | [(_, value)] => some (some value)
      | _ => none

/-- The fields of a record, in the order of `names`, `none` for one left out.  The
record is an object, in which unknown keys are ignored and known ones stand at
most once, or a list of the fields from the first on and no more than there are. -/
def fields? (names : List String) : Json → Option (List (Option Json))
  | .object members => objectFields? names members
  | .array items =>
    if items.length ≤ names.length then
      some (items.map some ++ List.replicate (names.length - items.length) none)
    else none
  | _ => none

/-! ### Text -/

/-- A number as four hexadecimal digits. -/
def hex4 (n : Nat) : List Char :=
  [Nat.digitChar (n / 4096 % 16), Nat.digitChar (n / 256 % 16), Nat.digitChar (n / 16 % 16),
    Nat.digitChar (n % 16)]

/-- A character inside a string. -/
def escapeChar (c : Char) : List Char :=
  if c = '"' then ['\\', '"']
  else if c = '\\' then ['\\', '\\']
  else if c.toNat < 0x20 then '\\' :: 'u' :: hex4 c.toNat
  else [c]

/-- A string between quotes. -/
def quote (s : String) : String :=
  String.ofList ('"' :: s.toList.flatMap escapeChar ++ ['"'])

/-- A key; one without text is written as the half of a pair that it is not. -/
def keyText : Option String → String
  | some key => quote key
  | none => "\"\\ud800\""

mutual

/-- A value as JSON text without blanks. -/
def render : Json → String
  | .null => "null"
  | .bool b => if b then "true" else "false"
  | .number m e => if e = 0 then toString m else toString m ++ "e" ++ toString e
  | .string s => quote s
  | .textless => "\"\\ud800\""
  | .array items => "[" ++ renderItems items ++ "]"
  | .object members => "\x7b" ++ renderMembers members ++ "\x7d"

/-- The items of a list, separated by commas. -/
def renderItems : List Json → String
  | [] => ""
  | [j] => render j
  | j :: js => render j ++ "," ++ renderItems js

/-- The members of an object, separated by commas. -/
def renderMembers : List (Option String × Json) → String
  | [] => ""
  | [(key, j)] => keyText key ++ ":" ++ render j
  | (key, j) :: more => keyText key ++ ":" ++ render j ++ "," ++ renderMembers more

end

end Json

end TreeSmith
