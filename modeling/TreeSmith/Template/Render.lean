import TreeSmith.Template.Filter
import TreeSmith.Template.Node

/-!
# Rendering templates

Expressions are evaluated and nodes are written in a scope of named values.  What
is undefined may be tested for and may be replaced by a default; to write it, to
loop over it, to decide by it or to ask for a part of it is a fault.

## Main definitions

* `Scope` — the names in sight, innermost first.
* `Expr.eval` — the value of an expression.
* `renderNodes` — the text of some nodes.
* `render` — the text of a template.
-/

namespace TreeSmith.Template

/-- The names that one body of nodes has set. -/
abbrev Frame := List (String × Value)

/-- The names in sight, innermost frame first. -/
abbrev Scope := List Frame

/-- The value of a name. -/
def Scope.lookup (scope : Scope) (name : String) : Value :=
  match scope with
  | [] => .undefined
  | frame :: outer =>
    match frame.find? (·.1 == name) with
    | some (_, v) => v
    | none => Scope.lookup outer name

/-- The scope with names set in its innermost frame. -/
def Scope.set (scope : Scope) (names : Frame) : Scope :=
  match scope with
  | [] => [names]
  | frame :: outer => (names ++ frame) :: outer

/-! ### Expressions -/

/-- The integers from a start up to a stop in steps, at most a hundred thousand. -/
def countFrom (start stop step : Int) : Except Fault Value :=
  let items :=
    if step = 0 then 0
    else if 0 < step then (stop - start + step - 1).toNat / step.toNat
    else (start - stop - step - 1).toNat / (-step).toNat
  if step = 0 || 100000 < items then .error (.wrongArguments "range")
  else .ok (.list ((List.range items).map fun (i : Nat) => .number (.integer (start + step * i))))

/-- A function by its name. -/
def callFunction (name : String) (args : List Value) : Except Fault Value :=
  if name = "range" then
    match args.map Value.index? with
    | [some stop] => countFrom 0 stop 1
    | [some start, some stop] => countFrom start stop 1
    | [some start, some stop, some step] => countFrom start stop step
    | _ => .error (.wrongArguments name)
  else .error (.unknownName name)

/-- A bound of a slice. -/
def sliceBound : Value → Except Fault (Option Int)
  | .none => .ok none
  | v =>
    match v.index? with
    | some n => .ok (some n)
    | none => .error .wrongValue

/-- The values that an argument stands for. -/
def argValues (kind : ArgKind) (v : Value) : Except Fault (List Value) :=
  match kind with
  | .placed => .ok [v]
  | .spread =>
    match v.items? with
    | some items => .ok items
    | none => .error .wrongValue
  | _ => .error .wrongValue

mutual

/-- The value of an expression. -/
def Expr.eval (scope : Scope) : Expr → Except Fault Value
  | .name s => .ok (scope.lookup s)
  | .text s => .ok (.text s)
  | .int n => .ok (.count n)
  | .decimal digits exponent => .ok (.number (.float (nearestFloat digits exponent)))
  | .bool b => .ok (.bool b)
  | .none => .ok .none
  | .list items => do
    let vs ← evalList scope items
    return .list vs
  | .map entries => do
    let vs ← evalEntries scope [] entries
    return .map vs
  | .member e name => do
    let v ← e.eval scope
    partOf v (v.member name)
  | .item e index => do
    let v ← e.eval scope
    let i ← index.eval scope
    partOf v (v.item i)
  | .slice e start stop step => do
    let v ← e.eval scope
    let first ← evalOption scope start
    let last ← evalOption scope stop
    let every ← evalOption scope step
    assertDefined v
    match v.slice? (← sliceBound first) (← sliceBound last) ((← sliceBound every).getD 1) with
    | some w => return w
    | none => .error .wrongValue
  | .call (.name s) args => do
    let vs ← evalArgs scope args
    if (scope.lookup s).isUndefined then callFunction s vs else .error .wrongValue
  | .call _ _ => .error .wrongValue
  | .filter e name args => do
    let v ← e.eval scope
    let ws ← evalArgs scope args
    applyFilter name v ws
  | .test e name args => do
    let v ← e.eval scope
    let ws ← evalArgs scope args
    return .bool (← applyTest name v ws)
  | .not e => do
    let v ← e.eval scope
    return .bool !(← truth v)
  | .negate e => do
    let v ← e.eval scope
    negated v
  | .binary op left right => do
    let v ← left.eval scope
    match op with
    | .either => if ← truth v then return v else right.eval scope
    | .both => if ← truth v then right.eval scope else return v
    | _ =>
      let w ← right.eval scope
      operate op v w
  | .compare first rest => do
    let v ← first.eval scope
    return .bool (← evalComparisons scope v rest)
  | .choose condition yes no => do
    let v ← condition.eval scope
    if ← truth v then yes.eval scope
    else
      match no with
      | some e => e.eval scope
      | none => return .omitted

/-- The values of some expressions in order. -/
def evalList (scope : Scope) : List Expr → Except Fault (List Value)
  | [] => .ok []
  | e :: es => do
    let v ← e.eval scope
    let vs ← evalList scope es
    return v :: vs

/-- The entries of a map, put in one after the other. -/
def evalEntries (scope : Scope) (entries : List (Value × Value)) :
    List (Expr × Expr) → Except Fault (List (Value × Value))
  | [] => .ok entries
  | (key, e) :: more => do
    let k ← key.eval scope
    let v ← e.eval scope
    evalEntries scope (Value.putEntry k v entries) more

/-- The value of an expression, or the absence of one without it. -/
def evalOption (scope : Scope) : Option Expr → Except Fault Value
  | none => .ok .none
  | some e => e.eval scope

/-- The values of arguments in order. -/
def evalArgs (scope : Scope) : List (ArgKind × Expr) → Except Fault (List Value)
  | [] => .ok []
  | (kind, e) :: more => do
    let v ← e.eval scope
    let vs ← argValues kind v
    let ws ← evalArgs scope more
    return vs ++ ws

/-- Whether all comparisons hold, each of a value with the next.  After one that does
not hold, nothing is evaluated. -/
def evalComparisons (scope : Scope) (v : Value) :
    List (Comparison × Expr) → Except Fault Bool
  | [] => .ok true
  | (c, e) :: more => do
    let w ← e.eval scope
    if ← compareValues c v w then evalComparisons scope w more else return false

end

/-! ### Loops -/

mutual

/-- The names that a target gives to a value and its items. -/
def Target.bind : Target → Value → Except Fault Frame
  | .name s, v => .ok [(s, v)]
  | .items targets, v =>
    match v with
    | .text _ => .error .wrongValue
    | _ =>
      match v.items? with
      | some items => bindItems targets items
      | none => .error .wrongValue

/-- The names that targets give to as many values. -/
def bindItems : List Target → List Value → Except Fault Frame
  | [], [] => .ok []
  | target :: targets, v :: vs => do
    let frame ← target.bind v
    let rest ← bindItems targets vs
    return rest ++ frame
  | _, _ => .error .wrongValue

end

/-- The items that a loop goes through, and their number if it is known before. -/
structure LoopItems where
  /-- The items in order. -/
  items : List Value
  /-- Their number, which is not known for the characters of a text. -/
  count : Option Nat

/-- The items of a value that a loop goes through. -/
def LoopItems.of : Value → Except Fault LoopItems
  | .undefined => .error .undefinedValue
  | .omitted => .ok ⟨[], some 0⟩
  | .none => .ok ⟨[], some 0⟩
  | .text s => .ok ⟨Value.characters s, none⟩
  | v =>
    match v.items? with
    | some items => .ok ⟨items, some items.length⟩
    | none => .error .wrongValue

/-- The items for which a condition on the loop's target holds. -/
def filterItems (target : Target) (scope : Scope) (condition : Expr) :
    List Value → Except Fault (List Value)
  | [] => .ok []
  | v :: vs => do
    let frame ← target.bind v
    let c ← condition.eval (frame :: scope)
    let keep ← truth c
    let rest ← filterItems target scope condition vs
    return if keep then v :: rest else rest

/-- The items of a loop with a source and, perhaps, a condition. -/
def loopItems (scope : Scope) (target : Target) (source : Expr) (condition : Option Expr) :
    Except Fault LoopItems := do
  let v ← source.eval scope
  let all ← LoopItems.of v
  match condition with
  | none => return all
  | some c =>
    let kept ← filterItems target scope c all.items
    return ⟨kept, some kept.length⟩

/-- The body of a loop for each item in order, every time in a frame of its own. -/
def repeatBody (body : Scope → Except Fault (Scope × String)) (target : Target) (outer : Scope)
    (count : Option Nat) : Nat → Value → List Value → Except Fault String
  | _, _, [] => .ok ""
  | index, previous, v :: vs => do
    let frame ← target.bind v
    let place := Value.place index count previous (vs.headD .undefined)
    let (_, text) ← body ((frame ++ [("loop", place)]) :: outer)
    let rest ← repeatBody body target outer count (index + 1) v vs
    return text ++ rest

/-! ### Nodes -/

/-- The text of a body passed through filters. -/
def applyFilters (scope : Scope) : List FilterCall → Value → Except Fault Value
  | [], v => .ok v
  | (name, args) :: more, v => do
    let ws ← evalArgs scope args
    let w ← applyFilter name v ws
    applyFilters scope more w

mutual

/-- The text of a node, and the scope after it. -/
def renderNode (scope : Scope) : Node → Except Fault (Scope × String)
  | .text s => .ok (scope, s)
  | .output e => do
    let v ← e.eval scope
    assertDefined v
    return (scope, v.written)
  | .loop target source condition body otherwise => do
    let all ← loopItems scope target source condition
    if all.items.isEmpty then renderNodes scope otherwise
    else
      let text ← repeatBody (fun inner => renderNodes inner body) target scope all.count 0
        .undefined all.items
      return (scope, text)
  | .branch condition yes no => do
    let v ← condition.eval scope
    if ← truth v then renderNodes scope yes else renderNodes scope no
  | .assign target e => do
    let v ← e.eval scope
    let frame ← target.bind v
    return (scope.set frame, "")
  | .capture name filters body => do
    let (scope, text) ← renderNodes scope body
    let v ← applyFilters scope filters (.text text)
    return (scope.set [(name, v)], "")

/-- The texts of some nodes one after the other, and the scope after them. -/
def renderNodes (scope : Scope) : List Node → Except Fault (Scope × String)
  | [] => .ok (scope, "")
  | node :: nodes => do
    let (scope, text) ← renderNode scope node
    let (scope, rest) ← renderNodes scope nodes
    return (scope, text ++ rest)

end

/-- The text of a template in which the names of `bindings` are in sight. -/
def render (source : String) (bindings : Frame) : Except Fault String :=
  match parse? source with
  | none => .error .malformed
  | some nodes => do
    let (_, text) ← renderNodes [[], bindings] nodes
    return text

end TreeSmith.Template
