import TreeSmith.Proofs.Imports
import TreeSmith.Proofs.TargetSyntax
import TreeSmith.Tree.Node

/-!
# What emitted expressions mean

An expression is evaluated on a node, whose slots hold data, and it has a type, given the
types of the slots:

| `e` has | expression | type |
|---|---|---|
| `T` | `&e` | `&T` |
| `&Vec<T>` | `e` | `&[T]` |
| `Option<T>` | `e.as_ref()` | `Option<&T>` |
| `Option<P<T>>` | `e.as_deref()` | `Option<&T>` |
| `Option<T>` | `e.ok_or_else(..)` | `Result<T, NullChildError>` |

An expression that has a type can be evaluated on every node whose slots hold data of
their types, and what comes of it is of the type.

## Main definitions

* `Datum`, `Datum.HasType` — what slots hold, and the types it has.
* `Term.eval` — what an expression comes to on a node.
* `Term.HasType` — the type of an expression.

## Main results

* `Term.HasType.exists_eval` — **a typed expression is evaluated to a datum of its type.**
* `ResolvedField.hasType_accessor` — the body of an accessor has its return type.
* `ResolvedField.reads_back` — types and bodies are read back from what is emitted.
-/

namespace TreeSmith

/-! ### Data -/

/-- What a slot holds or an expression comes to; plain values and nodes are atoms. -/
inductive Datum (α : Type)
  /-- A plain value or a node. -/
  | atom (a : α)
  /-- A sequence. -/
  | sequence (items : List (Datum α))
  /-- Something or nothing. -/
  | optional (inner : Option (Datum α))
  /-- An owning pointer. -/
  | pointer (policy : Ownership) (target : Datum α)
  /-- A reference. -/
  | reference (target : Datum α)
  /-- A result, which may be the error of an absent child. -/
  | result (r : Except Tree.AbsentChild (Datum α))

/-- A node: its slots by name. -/
abbrev Record (α : Type) := List (String × Datum α)

namespace Datum

variable {α : Type}

/-- The datum has the type, given which atoms have a type by its name. -/
def HasType (is : TypeExpr → α → Prop) : TypeExpr → Datum α → Prop
  | .named name, .atom a => is (.named name) a
  | .anyOf family, .atom a => is (.anyOf family) a
  | .sequence t, .sequence items => ∀ d ∈ items, HasType is t d
  | .optional t, .optional inner => ∀ d ∈ inner, HasType is t d
  | .pointer policy t, .pointer owner target => owner = policy ∧ HasType is t target
  | .reference t, .reference target => HasType is t target
  | .slice t, .reference (.sequence items) => ∀ d ∈ items, HasType is t d
  | .fallible t, .result r => ∀ d, r = .ok d → HasType is t d
  | _, _ => False

/-- A reference to what is there. -/
def asRef? : Datum α → Option (Datum α)
  | .optional inner => some (.optional (inner.map .reference))
  | _ => none

/-- A reference to what the pointer that is there points to. -/
def asDeref? : Datum α → Option (Datum α)
  | .optional none => some (.optional none)
  | .optional (some (.pointer _ target)) => some (.optional (some (.reference target)))
  | _ => none

/-- What is there as a result, or else the error of an absent child. -/
def okOrElse? (absent : Tree.AbsentChild) : Datum α → Option (Datum α)
  | .optional none => some (.result (.error absent))
  | .optional (some d) => some (.result (.ok d))
  | _ => none

section Inversion

variable {is : TypeExpr → α → Prop} {t : TypeExpr} {d : Datum α}

theorem HasType.exists_sequence (h : d.HasType is (.reference (.sequence t))) :
    ∃ items, d = .reference (.sequence items) ∧ ∀ e ∈ items, e.HasType is t := by
  cases d with
  | reference target =>
    cases target with
    | sequence items => exact ⟨items, rfl, h⟩
    | _ => cases h
  | _ => cases h

theorem HasType.exists_optional (h : d.HasType is (.optional t)) :
    ∃ inner, d = .optional inner ∧ ∀ e ∈ inner, e.HasType is t := by
  cases d with
  | optional inner => exact ⟨inner, rfl, h⟩
  | _ => cases h

theorem HasType.exists_pointer {policy : Ownership} (h : d.HasType is (.pointer policy t)) :
    ∃ target, d = .pointer policy target ∧ target.HasType is t := by
  cases d with
  | pointer owner target =>
    obtain ⟨rfl, htarget⟩ := h
    exact ⟨target, rfl, htarget⟩
  | _ => cases h

end Inversion

section Methods

variable {is : TypeExpr → α → Prop} {t : TypeExpr} {d : Datum α}

theorem HasType.exists_asRef (h : d.HasType is (.optional t)) :
    ∃ e, d.asRef? = some e ∧ e.HasType is (.optional (.reference t)) := by
  obtain ⟨inner, rfl, hinner⟩ := h.exists_optional
  refine ⟨.optional (inner.map .reference), rfl, ?_⟩
  intro d hd
  obtain ⟨e, he, rfl⟩ := Option.map_eq_some_iff.mp hd
  exact hinner e he

theorem HasType.exists_asDeref {policy : Ownership}
    (h : d.HasType is (.optional (.pointer policy t))) :
    ∃ e, d.asDeref? = some e ∧ e.HasType is (.optional (.reference t)) := by
  obtain ⟨inner, rfl, hinner⟩ := h.exists_optional
  cases inner with
  | none =>
    refine ⟨.optional none, rfl, ?_⟩
    intro d hd
    cases hd
  | some pointer =>
    obtain ⟨target, rfl, htarget⟩ := (hinner pointer rfl).exists_pointer
    refine ⟨.optional (some (.reference target)), rfl, ?_⟩
    intro d hd
    obtain rfl := Option.some.inj hd
    exact htarget

theorem HasType.exists_okOrElse (absent : Tree.AbsentChild) (h : d.HasType is (.optional t)) :
    ∃ e, d.okOrElse? absent = some e ∧ e.HasType is (.fallible t) := by
  obtain ⟨inner, rfl, hinner⟩ := h.exists_optional
  cases inner with
  | none =>
    refine ⟨.result (.error absent), rfl, ?_⟩
    intro d hd
    cases hd
  | some d =>
    refine ⟨.result (.ok d), rfl, ?_⟩
    intro e he
    obtain rfl := Except.ok.inj he
    exact hinner d rfl

end Methods

end Datum

/-! ### Expressions -/

namespace Term

variable {α : Type}

/-- What an expression comes to on a node, unless it does not fit what the slots hold. -/
def eval (node : Record α) : Term → Option (Datum α)
  | slot name => node.lookup name
  | borrow e => (e.eval node).map .reference
  | asRef e => (e.eval node).bind Datum.asRef?
  | asDeref e => (e.eval node).bind Datum.asDeref?
  | okOrElse e nodeType field => (e.eval node).bind (Datum.okOrElse? ⟨nodeType, field⟩)

/-- The type of an expression, given the types of the slots. -/
inductive HasType (slots : String → Option TypeExpr) : Term → TypeExpr → Prop
  /-- A slot is of its type. -/
  | slot {name : String} {t : TypeExpr} (h : slots name = some t) : HasType slots (slot name) t
  /-- A reference. -/
  | borrow {e : Term} {t : TypeExpr} (h : HasType slots e t) :
    HasType slots (borrow e) (.reference t)
  /-- A reference to a sequence serves as one to the row of its elements. -/
  | slice {e : Term} {t : TypeExpr} (h : HasType slots e (.reference (.sequence t))) :
    HasType slots e (.slice t)
  /-- A reference to what is there, if there is something. -/
  | asRef {e : Term} {t : TypeExpr} (h : HasType slots e (.optional t)) :
    HasType slots (asRef e) (.optional (.reference t))
  /-- A reference to what the pointer points to, if there is one. -/
  | asDeref {e : Term} {policy : Ownership} {t : TypeExpr}
    (h : HasType slots e (.optional (.pointer policy t))) :
    HasType slots (asDeref e) (.optional (.reference t))
  /-- What is there, or else an error. -/
  | okOrElse {e : Term} {nodeType field : String} {t : TypeExpr}
    (h : HasType slots e (.optional t)) :
    HasType slots (okOrElse e nodeType field) (.fallible t)

/-- **A typed expression is evaluated to a datum of its type** on every node whose slots
hold data of their types. -/
theorem HasType.exists_eval {slots : String → Option TypeExpr} {is : TypeExpr → α → Prop}
    {node : Record α}
    (hnode : ∀ name t, slots name = some t → ∃ d, node.lookup name = some d ∧ d.HasType is t)
    {e : Term} {t : TypeExpr} (h : e.HasType slots t) :
    ∃ d, e.eval node = some d ∧ d.HasType is t := by
  induction h with
  | slot hslot => exact hnode _ _ hslot
  | borrow _ ih =>
    obtain ⟨d, heval, hd⟩ := ih
    exact ⟨.reference d, by rw [eval, heval]; rfl, hd⟩
  | slice _ ih =>
    obtain ⟨d, heval, hd⟩ := ih
    obtain ⟨items, rfl, hitems⟩ := hd.exists_sequence
    exact ⟨_, heval, hitems⟩
  | asRef _ ih =>
    obtain ⟨d, heval, hd⟩ := ih
    obtain ⟨e, he, htype⟩ := hd.exists_asRef
    exact ⟨e, by rw [eval, heval]; exact he, htype⟩
  | asDeref _ ih =>
    obtain ⟨d, heval, hd⟩ := ih
    obtain ⟨e, he, htype⟩ := hd.exists_asDeref
    exact ⟨e, by rw [eval, heval]; exact he, htype⟩
  | @okOrElse _ nodeType field _ _ ih =>
    obtain ⟨d, heval, hd⟩ := ih
    obtain ⟨e, he, htype⟩ := hd.exists_okOrElse ⟨nodeType, field⟩
    exact ⟨e, by rw [eval, heval]; exact he, htype⟩

end Term

/-! ### The accessor of a field -/

namespace ResolvedField

/-- The body of an accessor has its return type, given the type of its slot. -/
theorem hasType_accessor (nodeType : String) {x : ResolvedField}
    {slots : String → Option TypeExpr} (h : slots x.name = some x.storageType) :
    (x.accessor nodeType).body.term.HasType slots (x.accessor nodeType).returnType := by
  have hslot : (Term.slot x.name).HasType slots x.storageType := .slot h
  obtain ⟨name, typeName, repeated, kind⟩ := x
  cases kind with
  | value path =>
    cases repeated with
    | false => exact .borrow hslot
    | true => exact .slice (.borrow hslot)
  | tree owner target =>
    cases repeated with
    | false =>
      cases owner with
      | exclusive => exact .okOrElse (.asDeref hslot)
      | shared => exact .asRef hslot
    | true => cases owner <;> exact .slice (.borrow hslot)

/-- The body of an accessor starts from the slot of the field. -/
theorem root_accessor (nodeType : String) (x : ResolvedField) :
    (x.accessor nodeType).body.term.root = x.name := by
  unfold ResolvedField.accessor
  split <;> rfl

theorem isSpelled_accessor {nodeType : String} (hnodeType : Name.isIdentifier nodeType = true)
    {x : ResolvedField} (hname : Name.isIdentifier x.name = true) :
    (x.accessor nodeType).body.IsSpelled := by
  unfold ResolvedField.accessor
  split
  · exact hname
  · exact hname
  · exact ⟨hnodeType, hname⟩
  · exact hname
  · exact hname

/-- The types and the body of a declared field are read back from what is emitted. -/
theorem reads_back {r : Registry} {family : Family} {policy : Ownership} {nodeType : String}
    (hnodeType : Name.isIdentifier nodeType = true) {f : FieldSpec} (hf : f.Valid)
    {x : ResolvedField} (hx : r.resolveField family policy nodeType f = .ok x) :
    TypeExpr.ofText? x.storageType.text = some x.storageType ∧
      TypeExpr.ofText? (x.accessor nodeType).returnType.text =
        some (x.accessor nodeType).returnType ∧
      Term.ofText? (x.accessor nodeType).body.text = some (x.accessor nodeType).body.term := by
  obtain ⟨hstorage, hreturn⟩ := element_of_resolveField hx
  have hname : x.name = f.name := by
    obtain ⟨ty, -, kind, -, rfl⟩ := Registry.resolveField_eq_ok.mp hx
    rfl
  refine ⟨?_, ?_, ?_⟩
  · apply TypeExpr.ofText?_text
    rw [hstorage]
    exact hf.type
  · apply TypeExpr.ofText?_text
    rw [hreturn]
    exact hf.type
  · apply Term.ofText?_text
    apply isSpelled_accessor hnodeType
    rw [hname]
    exact hf.name.identifier

end ResolvedField

end TreeSmith
