import TreeSmith.Template.Number
import TreeSmith.Text.Quoted

/-!
# Template values

What the names and expressions of a template stand for, and how such a value is
written, compared, tested and taken apart.

## Main definitions

* `Template.Value` — the values.
* `Value.written`, `Value.inspect` — a value on its own, and inside a list.
* `Value.items?`, `Value.member`, `Value.item`, `Value.slice?` — the parts of a value.
* `Value.isTrue`, `Value.same`, `Value.order` — truth, equality and order.
-/

namespace TreeSmith.Template

/-- A value in a template. -/
inductive Value
  /-- The value of a name that stands for nothing. -/
  | undefined
  /-- The value of a choice that was left out, which may be written. -/
  | omitted
  /-- The explicit absence of a value. -/
  | none
  /-- A truth value. -/
  | bool (b : Bool)
  /-- A number. -/
  | number (a : Number)
  /-- A text. -/
  | text (s : String)
  /-- A list. -/
  | list (items : List Value)
  /-- Values in order that are computed from lists. -/
  | stream (items : List Value)
  /-- Values by their keys, in the order in which they were put in. -/
  | map (entries : List (Value × Value))
  /-- The place in a loop: how many items come before, how many there are in all if
  that is known, and the items just before and after. -/
  | place (index : Nat) (count : Option Nat) (previous next : Value)

namespace Value

/-- An integer that counts something. -/
def count (n : Nat) : Value := .number (.natural n)

/-! ### Text -/

mutual

/-- A value inside a list or map. -/
def inspect : Value → String
  | .undefined => "undefined"
  | .omitted => "undefined"
  | .none => "None"
  | .bool b => if b then "True" else "False"
  | .number a => a.inspect
  | .text s => Text.quoted s
  | .list items => "[" ++ inspectItems items ++ "]"
  | .stream items => "[" ++ inspectItems items ++ "]"
  | .map entries => "\x7b" ++ inspectEntries entries ++ "\x7d"
  | .place index _ _ _ => s!"<loop {index}>"

/-- The items of a list. -/
def inspectItems : List Value → String
  | [] => ""
  | [v] => inspect v
  | v :: vs => inspect v ++ ", " ++ inspectItems vs

/-- The entries of a map. -/
def inspectEntries : List (Value × Value) → String
  | [] => ""
  | [(key, v)] => inspect key ++ ": " ++ inspect v
  | (key, v) :: more => inspect key ++ ": " ++ inspect v ++ ", " ++ inspectEntries more

end

/-- A value on its own: a text as it is, and nothing for what is undefined. -/
def written : Value → String
  | .text s => s
  | .number a => a.text
  | .undefined => ""
  | .omitted => ""
  | v => inspect v

/-! ### Equality and order -/

/-- A truth value or number as a number. -/
def number? : Value → Option Number
  | .bool b => some (.integer (if b then 1 else 0))
  | .number a => some a
  | _ => Option.none

/-- The items of a list or stream. -/
def sequence? : Value → Option (List Value)
  | .list items => some items
  | .stream items => some items
  | _ => Option.none

mutual

/-- Equality: numbers by their value, lists item by item, maps key by key. -/
def same : Value → Value → Bool
  | .list xs, w =>
    match w.sequence? with
    | some ys => sameItems xs ys
    | Option.none => false
  | .stream xs, w =>
    match w.sequence? with
    | some ys => sameItems xs ys
    | Option.none => false
  | .map xs, .map ys => xs.length == ys.length && sameEntries xs ys
  | .text s, .text t => s == t
  | .none, .none => true
  | .undefined, .undefined => true
  | .undefined, .omitted => true
  | .omitted, .undefined => true
  | .omitted, .omitted => true
  | v, w =>
    match v.number?, w.number? with
    | some a, some b => a.same b
    | _, _ => false

/-- Equality of items in order. -/
def sameItems : List Value → List Value → Bool
  | [], [] => true
  | x :: xs, y :: ys => same x y && sameItems xs ys
  | _, _ => false

/-- The keys of the first entries have equal values among the second. -/
def sameEntries : List (Value × Value) → List (Value × Value) → Bool
  | [], _ => true
  | (key, x) :: xs, ys =>
    (match ys.find? fun entry => same key entry.1 with
      | some (_, y) => same x y
      | Option.none => false) && sameEntries xs ys

end

/-- The rank of a kind of value, by which values of different kinds are ordered. -/
def rank : Value → Nat
  | .undefined => 0
  | .omitted => 0
  | .none => 1
  | .bool _ => 2
  | .number _ => 3
  | .text _ => 4
  | .list _ => 5
  | .map _ => 6
  | .stream _ => 7
  | .place _ _ _ _ => 8

mutual

/-- The order of two values: by their kinds, then by numbers, characters or items. -/
def order : Value → Value → Ordering
  | .bool a, .bool b => compare a.toNat b.toNat
  | .number a, .number b => a.order b
  | .text s, .text t => compare s t
  | .list xs, .list ys => orderItems xs ys
  | .stream xs, .stream ys => orderItems xs ys
  | .map xs, .map ys => orderEntries xs ys
  | v, w => compare v.rank w.rank

/-- The order of two lists, by the first items that differ. -/
def orderItems : List Value → List Value → Ordering
  | [], [] => .eq
  | [], _ :: _ => .lt
  | _ :: _, [] => .gt
  | x :: xs, y :: ys => (order x y).then (orderItems xs ys)

/-- The order of two maps, by the first entries that differ. -/
def orderEntries : List (Value × Value) → List (Value × Value) → Ordering
  | [], [] => .eq
  | [], _ :: _ => .lt
  | _ :: _, [] => .gt
  | (k, x) :: xs, (l, y) :: ys => ((order k l).then (order x y)).then (orderEntries xs ys)

end

/-! ### Parts -/

/-- The value is undefined, whether it may be written or not. -/
def isUndefined : Value → Bool
  | .undefined => true
  | .omitted => true
  | _ => false

/-- Zero, an empty text, list or map, and the absence of a value are false. -/
def isTrue : Value → Bool
  | .undefined => false
  | .omitted => false
  | .none => false
  | .bool b => b
  | .number a => !a.isZero
  | .text s => s != ""
  | .list items => !items.isEmpty
  | .stream items => !items.isEmpty
  | .map entries => !entries.isEmpty
  | .place _ _ _ _ => true

/-- The characters of a text. -/
def characters (s : String) : List Value :=
  s.toList.map fun c => .text (String.ofList [c])

/-- The values that a loop goes through: the items of a list, the characters of a
text, or the keys of a map. -/
def items? : Value → Option (List Value)
  | .list items => some items
  | .stream items => some items
  | .text s => some (characters s)
  | .map entries => some (entries.map (·.1))
  | _ => Option.none

/-- The value at a key of a map. -/
def valueAt? (key : Value) (entries : List (Value × Value)) : Option Value :=
  (entries.find? fun entry => key.same entry.1).map (·.2)

/-- A map with a value put in at a key, in the place of an earlier one. -/
def putEntry (key v : Value) : List (Value × Value) → List (Value × Value)
  | [] => [(key, v)]
  | (k, w) :: more => if key.same k then (k, v) :: more else (k, w) :: putEntry key v more

/-- The parts of a place in a loop. -/
def placeMember (index : Nat) (count : Option Nat) (previous next : Value) (name : String) :
    Value :=
  if name = "index" then .count (index + 1)
  else if name = "index0" then .count index
  else if name = "first" then .bool (index == 0)
  else if name = "last" then .bool (count == some (index + 1))
  else if name = "depth" then .count 1
  else if name = "depth0" then .count 0
  else if name = "previtem" then previous
  else if name = "nextitem" then next
  else
    match count with
    | Option.none => .undefined
    | some n =>
      if name = "length" then .count n
      else if name = "revindex" then .count (n - index)
      else if name = "revindex0" then .count (n - index - 1)
      else .undefined

/-- The part of a value with a name. -/
def member (name : String) : Value → Value
  | .map entries => (valueAt? (.text name) entries).getD .undefined
  | .place index count previous next => placeMember index count previous next name
  | _ => .undefined

/-- A value as an index. -/
def index? (v : Value) : Option Int :=
  v.number?.bind Number.index?

/-- The item at an index, from the end for a negative one. -/
def itemAt (items : List Value) (n : Int) : Value :=
  let i := if n < 0 then n + items.length else n
  if i < 0 then .undefined else items.getD i.toNat .undefined

/-- The item of a list, the character of a text, the value of a map or the part of a
place at an index or key. -/
def item (v index : Value) : Value :=
  match v, index with
  | .map entries, key => (valueAt? key entries).getD .undefined
  | .place _ _ _ _, .text name => v.member name
  | .place _ _ _ _, _ => .undefined
  | _, _ =>
    match v.items?, index.index? with
    | some items, some n => itemAt items n
    | _, _ => .undefined

/-! ### Slices -/

/-- An end of a slice among `count` items, within the given limits. -/
def sliceEnd (count low high : Int) (n : Int) : Int :=
  max low (min high (if n < 0 then n + count else n))

/-- The indices of a slice from the first one on. -/
def sliceIndices (step stop : Int) : Nat → Int → List Nat
  | 0, _ => []
  | fuel + 1, i =>
    if (0 < step && i < stop) || (step < 0 && stop < i) then
      i.toNat :: sliceIndices step stop fuel (i + step)
    else []

/-- The items from a start up to a stop in steps. -/
def sliceItems {α : Type} (items : List α) (start stop : Option Int) (step : Int) : List α :=
  let count : Int := items.length
  let (first, last) :=
    if 0 < step then
      ((start.map (sliceEnd count 0 count)).getD 0, (stop.map (sliceEnd count 0 count)).getD count)
    else
      ((start.map (sliceEnd count (-1) (count - 1))).getD (count - 1),
        (stop.map (sliceEnd count (-1) (count - 1))).getD (-1))
  (sliceIndices step last (items.length + 1) first).filterMap (items[·]?)

/-- The slice of a list or text, unless the value has none or the step is zero. -/
def slice? (v : Value) (start stop : Option Int) (step : Int) : Option Value :=
  if step = 0 then Option.none
  else
    match v with
    | .text s => some (.text (String.ofList (sliceItems s.toList start stop step)))
    | .none => some (.list [])
    | .omitted => some (.list [])
    | v => v.sequence?.map fun items => .stream (sliceItems items start stop step)

end Value

end TreeSmith.Template
