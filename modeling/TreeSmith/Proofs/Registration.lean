import Mathlib.Logic.Relation
import TreeSmith.Proofs.Fallible

/-!
# What every registry keeps

A registry grows by registrations, each of which is accepted or refused.  Whatever
was asked of it, its names stay fit for the generated code and distinct wherever
they stand side by side, and a family includes only families before it.

The checks of a registration are sequences that stop at the first fault; for each
there is a lemma saying what a candidate that passes looks like.  The lists are
checked from left to right with the names seen so far, so the lemmas about lists
carry those names.

## Main definitions

* `Name.Declarable`, `FieldSpec.Valid`, `NodeType.Valid`, `Family.Valid`,
  `ValueType.Valid` — well-formed parts.
* `Registry.Valid` — the invariant.
* `Registration`, `Registry.run`, `Registry.Reachable` — registries after any calls.

## Main results

* `checkFields_eq_ok`, `checkNodeTypes_eq_ok`, `define_eq_ok` — what the checks
  accept.
* `Registry.Valid.after` — a registration keeps the invariant.
* `Registry.valid_run` — **every run keeps the invariant.**
-/

namespace TreeSmith

/-! ### Well-formed parts -/

/-- The name can be declared in the generated code. -/
structure Name.Declarable (name : String) : Prop where
  /-- The name is an identifier. -/
  identifier : isIdentifier name = true
  /-- The name is no word of the target language. -/
  not_reserved : isReserved name = false
  /-- The name hides no type that the generated code uses. -/
  not_builtin : isBuiltinType name = false

/-- The field can be generated. -/
structure FieldSpec.Valid (f : FieldSpec) : Prop where
  /-- The field can be declared. -/
  name : Name.Declarable f.name
  /-- The field does not clash with the constructor. -/
  ne_new : f.name ≠ "new"
  /-- The field does not clash with the visitor entry. -/
  ne_accept : f.name ≠ "accept"
  /-- The type of the field is an identifier. -/
  type : Name.isIdentifier f.type = true

/-- The node type can be generated. -/
structure NodeType.Valid (n : NodeType) : Prop where
  /-- The node type can be declared. -/
  name : Name.Declarable n.name
  /-- Its fields can be generated. -/
  fields : ∀ f ∈ n.fields, f.Valid
  /-- Its fields have different names. -/
  fields_nodup : (n.fields.map (·.name)).Nodup

/-- The family can be generated. -/
structure Family.Valid (f : Family) : Prop where
  /-- The base type can be declared. -/
  name : Name.Declarable f.name
  /-- The module and the visitor parameter can be named after the family. -/
  snake : Name.isReserved (Name.snakeCase f.name) = false
  /-- No family is included twice. -/
  includes_nodup : f.includes.Nodup
  /-- Its node types can be generated. -/
  nodeTypes : ∀ n ∈ f.nodeTypes, n.Valid
  /-- Its node types have different names. -/
  nodeTypes_nodup : (f.nodeTypes.map (·.name)).Nodup
  /-- No node type has the name of the base type. -/
  nodeTypes_ne : ∀ n ∈ f.nodeTypes, n.name ≠ f.name

/-- The value type can be used. -/
structure ValueType.Valid (v : ValueType) : Prop where
  /-- The name is an identifier. -/
  identifier : Name.isIdentifier v.name = true
  /-- A path is not empty. -/
  path : v.path ≠ some ""

namespace Registry

/-- The invariant of a registry. -/
structure Valid (r : Registry) : Prop where
  /-- The value types can be used. -/
  valueTypes : ∀ v ∈ r.valueTypes, v.Valid
  /-- The value types have different names. -/
  valueTypes_nodup : (r.valueTypes.map (·.name)).Nodup
  /-- The families can be generated. -/
  families : ∀ f ∈ r.families, f.Valid
  /-- The families have different names. -/
  families_nodup : (r.families.map (·.name)).Nodup
  /-- A family includes only families registered before it. -/
  includes_earlier : ∀ (i : ℕ) (f : Family), r.families[i]? = some f → ∀ g ∈ f.includes,
    ∃ j < i, ∃ e : Family, r.families[j]? = some e ∧ e.name = g

/-! ### What the checks accept -/

theorem checkName_eq_ok {kind : NameKind} {name : String} :
    checkName kind name = .ok () ↔ Name.Declarable name := by
  simp only [checkName, guard_eq_ok]
  constructor
  · rintro ⟨hid, hres, -⟩
    simp only [Bool.not_eq_true', Bool.not_eq_false, Bool.or_eq_true, not_or,
      Bool.not_eq_true] at hid hres
    exact ⟨hid, hres.1, hres.2⟩
  · rintro ⟨hid, hres, hbuiltin⟩
    simp [hid, hres, hbuiltin]

theorem checkFamilyName_eq_ok {name : String} :
    checkFamilyName name = .ok () ↔
      Name.Declarable name ∧ Name.isReserved (Name.snakeCase name) = false := by
  simp only [checkFamilyName, check_bind_eq_ok, guard_eq_ok, checkName_eq_ok]
  constructor
  · rintro ⟨hname, hres, -⟩
    simp only [Name.isReservedFamily, Bool.or_eq_true, not_or, Bool.not_eq_true] at hres
    exact ⟨hname, hres.2⟩
  · rintro ⟨hname, hsnake⟩
    refine ⟨hname, ?_, rfl⟩
    simp [Name.isReservedFamily, hname.not_reserved, hsnake]

theorem checkIncludes_eq_ok {r : Registry} {family : String} {includes : List String} :
    checkIncludes r family includes = .ok () ↔ ∀ g ∈ includes, (r.family? g).isSome := by
  induction includes with
  | nil => simp [checkIncludes]
  | cons g more ih =>
    simp only [checkIncludes, guard_eq_ok, ih, List.forall_mem_cons]
    cases r.family? g <;> simp

theorem checkField_eq_ok {nodeType : String} {earlier : List String} {f : FieldSpec} :
    checkField nodeType earlier f = .ok () ↔ f.Valid ∧ f.name ∉ earlier := by
  simp only [checkField, check_bind_eq_ok, error_bind, guard_eq_ok, checkName_eq_ok,
    Name.isGeneratedMember, Name.generatedMembers, List.contains_eq_mem, List.mem_cons,
    List.not_mem_nil, or_false, decide_eq_true_eq, not_or, Bool.not_eq_true', Bool.not_eq_false]
  constructor
  · rintro ⟨hname, ⟨hnew, haccept⟩, htype, hearlier, -⟩
    exact ⟨⟨hname, hnew, haccept, htype⟩, hearlier⟩
  · rintro ⟨⟨hname, hnew, haccept, htype⟩, hearlier⟩
    exact ⟨hname, ⟨hnew, haccept⟩, htype, hearlier, rfl⟩

/-- The names seen so far keep a list of fields from repeating one. -/
theorem checkFields_eq_ok {nodeType : String} {fields : List FieldSpec} :
    ∀ {earlier : List String}, checkFields nodeType earlier fields = .ok () ↔
      (∀ f ∈ fields, f.Valid ∧ f.name ∉ earlier) ∧ (fields.map (·.name)).Nodup := by
  induction fields with
  | nil => simp [checkFields]
  | cons f more ih =>
    intro earlier
    simp only [checkFields, check_bind_eq_ok, checkField_eq_ok, ih, List.forall_mem_cons,
      List.map_cons, List.nodup_cons, List.mem_map]
    constructor
    · rintro ⟨hf, hmore, hnodup⟩
      refine ⟨⟨hf, fun g hg => ?_⟩, ?_, hnodup⟩
      · exact ⟨(hmore g hg).1, fun h => (hmore g hg).2 (List.mem_cons_of_mem _ h)⟩
      · rintro ⟨g, hg, heq⟩
        exact (hmore g hg).2 (heq ▸ List.mem_cons_self)
    · rintro ⟨⟨hf, hmore⟩, hnot, hnodup⟩
      refine ⟨hf, fun g hg => ⟨(hmore g hg).1, fun h => ?_⟩, hnodup⟩
      rcases List.mem_cons.mp h with heq | h
      · exact hnot ⟨g, hg, heq⟩
      · exact (hmore g hg).2 h

/-- The node types of a family pass when each can be generated, none has the name of
the base type, and no name comes twice. -/
theorem checkNodeTypes_eq_ok {family : String} {nodeTypes : List NodeType} :
    ∀ {earlier : List String}, checkNodeTypes family earlier nodeTypes = .ok () ↔
      (∀ n ∈ nodeTypes, n.Valid ∧ n.name ≠ family ∧ n.name ∉ earlier) ∧
        (nodeTypes.map (·.name)).Nodup := by
  induction nodeTypes with
  | nil => simp [checkNodeTypes]
  | cons n more ih =>
    intro earlier
    simp only [checkNodeTypes, check_bind_eq_ok, error_bind, guard_eq_ok, ih, checkName_eq_ok,
      checkFields_eq_ok, List.forall_mem_cons, List.map_cons, List.nodup_cons, List.mem_map,
      Bool.or_eq_true, decide_eq_true_eq, List.contains_eq_mem, not_or, List.not_mem_nil,
      not_false_eq_true, and_true]
    constructor
    · rintro ⟨hname, ⟨hbase, hnew⟩, ⟨hfields, hnodup⟩, hmore, hrest⟩
      refine ⟨⟨⟨⟨hname, hfields, hnodup⟩, hbase, hnew⟩, fun m hm => ?_⟩, ?_, hrest⟩
      · obtain ⟨hvalid, hne, hnot⟩ := hmore m hm
        exact ⟨hvalid, hne, fun h => hnot (List.mem_cons_of_mem _ h)⟩
      · rintro ⟨m, hm, heq⟩
        exact (hmore m hm).2.2 (heq ▸ List.mem_cons_self)
    · rintro ⟨⟨⟨hvalid, hbase, hnew⟩, hmore⟩, hnot, hrest⟩
      refine ⟨hvalid.name, ⟨hbase, hnew⟩, ⟨hvalid.fields, hvalid.fields_nodup⟩,
        fun m hm => ⟨(hmore m hm).1, (hmore m hm).2.1, fun h => ?_⟩, hrest⟩
      rcases List.mem_cons.mp h with heq | h
      · exact hnot ⟨m, hm, heq⟩
      · exact (hmore m hm).2.2 h

theorem isSome_family? {r : Registry} {name : String} :
    (r.family? name).isSome ↔ name ∈ r.families.map (·.name) := by
  simp [family?]

/-- A family is registered exactly when its name is new, its includes are there and
its node types pass; it then stands at the end. -/
theorem define_eq_ok {r r' : Registry} {name : String} {nodeTypes : List NodeType}
    {includes : List String} :
    r.define name nodeTypes includes = .ok r' ↔
      (Name.Declarable name ∧ Name.isReserved (Name.snakeCase name) = false) ∧
      name ∉ r.families.map (·.name) ∧ (∀ g ∈ includes, g ∈ r.families.map (·.name)) ∧
      ((∀ n ∈ nodeTypes, n.Valid ∧ n.name ≠ name) ∧ (nodeTypes.map (·.name)).Nodup) ∧
      r' = { r with families := r.families ++ [⟨name, nodeTypes, distinct includes⟩] } := by
  rw [@eq_comm Registry r']
  simp only [define, check_bind_eq_ok, error_bind, guard_eq_ok, checkFamilyName_eq_ok,
    checkIncludes_eq_ok, checkNodeTypes_eq_ok, isSome_family?, List.not_mem_nil,
    not_false_eq_true, and_true, pure, Except.pure, Except.ok.injEq]

/-- A family that is registered can be generated. -/
theorem valid_of_define {r r' : Registry} {name : String} {nodeTypes : List NodeType}
    {includes : List String} (h : r.define name nodeTypes includes = .ok r') :
    Family.Valid ⟨name, nodeTypes, distinct includes⟩ := by
  obtain ⟨⟨hname, hsnake⟩, -, -, ⟨hnodes, hnodup⟩, -⟩ := define_eq_ok.mp h
  exact ⟨hname, hsnake, nodup_distinct includes, fun n hn => (hnodes n hn).1, hnodup,
    fun n hn => (hnodes n hn).2⟩

/-! ### Value types -/

/-- Putting a value type keeps the names in place, and adds a new one at the end. -/
theorem map_name_putValueType (v : ValueType) (ws : List ValueType) :
    (putValueType v ws).map (·.name) =
      if v.name ∈ ws.map (·.name) then ws.map (·.name) else ws.map (·.name) ++ [v.name] := by
  induction ws with
  | nil => simp [putValueType]
  | cons w ws ih =>
    by_cases hw : w.name = v.name
    · simp [putValueType, hw]
    · simp only [putValueType, hw, if_false, List.map_cons, List.mem_cons, Ne.symm hw, false_or, ih]
      split <;> simp

theorem mem_putValueType {v u : ValueType} {ws : List ValueType} (h : u ∈ putValueType v ws) :
    u = v ∨ u ∈ ws := by
  induction ws with
  | nil => simpa [putValueType] using h
  | cons w ws ih =>
    simp only [putValueType] at h
    split at h
    · rcases List.mem_cons.mp h with h | h
      · exact .inl h
      · exact .inr (List.mem_cons_of_mem _ h)
    · rcases List.mem_cons.mp h with h | h
      · exact .inr (h ▸ List.mem_cons_self)
      · exact (ih h).imp_right (List.mem_cons_of_mem _)

/-- A value type of a new name goes to the end. -/
theorem putValueType_of_notMem {v : ValueType} {ws : List ValueType}
    (h : v.name ∉ ws.map (·.name)) : putValueType v ws = ws ++ [v] := by
  induction ws with
  | nil => rfl
  | cons w ws ih =>
    rw [List.map_cons, List.mem_cons, not_or] at h
    rw [putValueType, if_neg (Ne.symm h.1), ih h.2, List.cons_append]

/-- A value type is registered exactly when its name is an identifier. -/
theorem registerValueType_eq_ok {r r' : Registry} {name : String} {path : Option String} :
    r.registerValueType name path = .ok r' ↔ Name.isIdentifier name = true ∧
      r' = { r with valueTypes := putValueType ⟨name, path.filter (· ≠ "")⟩ r.valueTypes } := by
  rw [@eq_comm Registry r']
  by_cases h : Name.isIdentifier name = true <;> simp [registerValueType, h]

/-! ### Runs -/

end Registry

/-- What can be asked of a registry. -/
inductive Registration
  /-- A value type with its path. -/
  | valueType (name : String) (path : Option String)
  /-- A family with its node types and the families that it includes. -/
  | family (name : String) (nodeTypes : List NodeType) (includes : List String)

namespace Registry

/-- The answer to a registration. -/
def register (r : Registry) : Registration → Except SchemaFault Registry
  | .valueType name path => r.registerValueType name path
  | .family name nodeTypes includes => r.define name nodeTypes includes

/-- The registry after a registration, which it may have refused. -/
def after (r : Registry) (c : Registration) : Registry :=
  match r.register c with
  | .ok r' => r'
  | .error _ => r

/-- The registry after some registrations in order. -/
def run (r : Registry) (calls : List Registration) : Registry :=
  calls.foldl after r

/-- The registry comes from the empty one by registrations. -/
def Reachable (r : Registry) : Prop :=
  ∃ calls, empty.run calls = r

/-- One family includes another, by their names. -/
def Includes (r : Registry) (a b : String) : Prop :=
  ∃ f ∈ r.families, f.name = a ∧ b ∈ f.includes

theorem valid_empty : empty.Valid :=
  ⟨by simp [empty], by simp [empty], by simp [empty], by simp [empty], by simp [empty]⟩

/-- Putting a value type with a good name and no empty path keeps the invariant. -/
theorem Valid.putValueType {r : Registry} (hr : r.Valid) {v : ValueType} (hv : v.Valid) :
    Valid { r with valueTypes := Registry.putValueType v r.valueTypes } where
  valueTypes := by
    intro u hu
    rcases mem_putValueType hu with rfl | hu
    · exact hv
    · exact hr.valueTypes u hu
  valueTypes_nodup := by
    rw [map_name_putValueType]
    split
    · exact hr.valueTypes_nodup
    · next hnew =>
      rw [← List.concat_eq_append]
      exact hr.valueTypes_nodup.concat hnew
  families := hr.families
  families_nodup := hr.families_nodup
  includes_earlier := hr.includes_earlier

/-- A family with a new name that includes registered families keeps the invariant at
the end of the registry. -/
theorem Valid.append {r : Registry} (hr : r.Valid) {f : Family} (hf : f.Valid)
    (hnew : f.name ∉ r.families.map (·.name))
    (hincludes : ∀ g ∈ f.includes, g ∈ r.families.map (·.name)) :
    Valid { r with families := r.families ++ [f] } where
  valueTypes := hr.valueTypes
  valueTypes_nodup := hr.valueTypes_nodup
  families := by
    intro e he
    rcases List.mem_append.mp he with he | he
    · exact hr.families e he
    · rw [List.mem_singleton.mp he]; exact hf
  families_nodup := by
    rw [List.map_append, List.map_singleton, ← List.concat_eq_append]
    exact hr.families_nodup.concat hnew
  includes_earlier := by
    intro i e he g hg
    rcases Nat.lt_or_ge i r.families.length with hi | hi
    · -- an old family: what it includes is still in its place
      rw [List.getElem?_append_left hi] at he
      obtain ⟨j, hj, d, hd, hname⟩ := hr.includes_earlier i e he g hg
      refine ⟨j, hj, d, ?_, hname⟩
      rw [List.getElem?_append_left (by omega)]
      exact hd
    · -- the new family: everything registered so far is before it
      rw [List.getElem?_append_right hi, List.getElem?_singleton] at he
      split at he
      · obtain rfl := Option.some.inj he
        obtain ⟨d, hd, hname⟩ := List.mem_map.mp (hincludes g hg)
        obtain ⟨j, hj, hget⟩ := List.getElem_of_mem hd
        refine ⟨j, by omega, d, ?_, hname⟩
        rw [List.getElem?_append_left hj, List.getElem?_eq_getElem hj, hget]
      · cases he

/-- A registration keeps the invariant, accepted or refused. -/
theorem Valid.after {r : Registry} (hr : r.Valid) (c : Registration) : (r.after c).Valid := by
  unfold Registry.after
  split
  · next r' h =>
    cases c with
    | valueType name path =>
      obtain ⟨hname, rfl⟩ := registerValueType_eq_ok.mp h
      refine hr.putValueType ⟨hname, ?_⟩
      cases path <;> simp [Option.filter_eq_some_iff]
    | family name nodeTypes includes =>
      have hvalid := valid_of_define h
      obtain ⟨-, hnew, hincludes, -, rfl⟩ := define_eq_ok.mp h
      exact hr.append hvalid hnew fun g hg => hincludes g (mem_distinct.mp hg)
  · exact hr

theorem Valid.run {r : Registry} (hr : r.Valid) (calls : List Registration) :
    (r.run calls).Valid := by
  induction calls generalizing r with
  | nil => exact hr
  | cons c calls ih => exact ih (hr.after c)

theorem Reachable.valid {r : Registry} (hr : r.Reachable) : r.Valid := by
  obtain ⟨calls, rfl⟩ := hr
  exact valid_empty.run calls

/-! ### Inclusion has no cycle -/

/-- The place of the family of a name. -/
def position (r : Registry) (name : String) : ℕ :=
  (r.families.map (·.name)).idxOf name

theorem Valid.position_eq {r : Registry} (hr : r.Valid) {i : ℕ} {f : Family}
    (hf : r.families[i]? = some f) : r.position f.name = i := by
  obtain ⟨hi, rfl⟩ := List.getElem?_eq_some_iff.mp hf
  have hi' : i < (r.families.map (·.name)).length := by simpa using hi
  have h := hr.families_nodup.idxOf_getElem i hi'
  rwa [List.getElem_map] at h

/-- An included family stands before the one that includes it. -/
theorem Valid.position_lt {r : Registry} (hr : r.Valid) {a b : String} (h : r.Includes a b) :
    r.position b < r.position a := by
  obtain ⟨f, hf, rfl, hb⟩ := h
  obtain ⟨i, hi⟩ := List.mem_iff_getElem?.mp hf
  obtain ⟨j, hj, e, he, rfl⟩ := hr.includes_earlier i f hi b hb
  rw [hr.position_eq hi, hr.position_eq he]
  exact hj

/-- No family includes itself. -/
theorem Valid.name_notMem_includes {r : Registry} (hr : r.Valid) {f : Family}
    (hf : f ∈ r.families) : f.name ∉ f.includes := by
  intro hself
  exact absurd (hr.position_lt ⟨f, hf, rfl, hself⟩) (Nat.lt_irrefl _)

theorem Valid.not_transGen_includes {r : Registry} (hr : r.Valid) (name : String) :
    ¬ Relation.TransGen r.Includes name name := by
  intro hcycle
  have hlt : ∀ {a b}, Relation.TransGen r.Includes a b → r.position b < r.position a := by
    intro a b h
    induction h with
    | single h => exact hr.position_lt h
    | tail _ h ih => exact Nat.lt_trans (hr.position_lt h) ih
  exact absurd (hlt hcycle) (Nat.lt_irrefl _)

/-- **Every run of registrations keeps the invariant**, whatever was asked and
whatever was refused, and leaves inclusion without a cycle. -/
theorem valid_run (calls : List Registration) :
    (empty.run calls).Valid ∧ ∀ name, ¬ Relation.TransGen (empty.run calls).Includes name name := by
  have hvalid : (empty.run calls).Valid := valid_empty.run calls
  exact ⟨hvalid, hvalid.not_transGen_includes⟩

end Registry

end TreeSmith
