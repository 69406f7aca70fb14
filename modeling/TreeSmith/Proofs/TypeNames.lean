import TreeSmith.Proofs.Imports

/-!
# Names in the types of definitions

A definition spells the type of each field in a parameter, in a slot and in an accessor, and
each of these types has one name at its core.  The name is that of a family, of a node type or
of a value type.  Families and node types are declared in generated modules, and registration
refuses the reserved words of the target language for them.  Value types are declared
elsewhere, and registration asks only that their names are identifiers: a reserved word comes
through here, and nowhere else.

## Main definitions

* `TypeDefinition.typeNames` — the names in the types of a definition.

## Main results

* `Registry.Valid.lookup_declarable` — a name that is no value type's can be declared.
* `Registry.mem_typeNames_iff` — the names in types are the type names of the schema.
* `Registry.mem_typeNames_iff_of_isReserved` — a reserved word in a type is the name of a value
  type in use.
* `Registry.not_reserved_typeNames_iff` — **no reserved word stands in a type just when no value
  type in use has one for its name.**
-/

namespace TreeSmith

/-- The names at the core of the types that a definition spells. -/
def TypeDefinition.typeNames (t : TypeDefinition) : List String :=
  t.params.map (·.type.element) ++ t.storage.map (·.type.element) ++
    t.accessors.map (·.returnType.element)

/-- The names in the definition of a node type are the type names of its fields. -/
theorem TypeDefinition.Spells.mem_typeNames {t : TypeDefinition} {n : NodeType} (h : t.Spells n)
    {name : String} : name ∈ t.typeNames ↔ ∃ f ∈ n.fields, f.type = name := by
  rw [typeNames, h.params, h.storage, h.accessors]
  simp

/-! ### The three doors -/

/-- A type that a valid family declares has a name that can be declared. -/
theorem Family.Valid.lookup_declarable {f : Family} (hf : f.Valid) {name : String} {ty : TypeRef}
    (h : f.lookup name = some ty) : Name.Declarable name := by
  unfold Family.lookup at h
  split at h
  · next hname =>
    rw [← hname]
    exact hf.name
  · obtain ⟨n, hn, -⟩ := Option.map_eq_some_iff.mp h
    have hname : n.name = name := by simpa using List.find?_some hn
    rw [← hname]
    exact (hf.nodeTypes n (List.mem_of_find?_eq_some hn)).name

namespace Registry

/-- A name that is found can be declared, unless it is that of a value type. -/
theorem Valid.lookup_declarable {r : Registry} (hr : r.Valid) {family : Family}
    (hfamily : family ∈ r.families) {name : String} {ty : TypeRef}
    (h : r.lookup family name = some ty) :
    Name.Declarable name ∨ ∃ v ∈ r.valueTypes, v.name = name ∧ ty = .value v := by
  rcases lookup_cases h with hown | ⟨-, g, -, f, hfind, hincluded⟩ | ⟨-, hvalue⟩
  · exact .inl ((hr.families family hfamily).lookup_declarable hown)
  · have hf : f ∈ r.families := List.mem_of_find?_eq_some hfind
    exact .inl ((hr.families f hf).lookup_declarable hincluded)
  · exact .inr hvalue

section Defined

variable {r : Registry} {settings : Settings} {family : Family} {d : FamilyDefinition}

/-- The names in the types of a family's definitions are the type names of its schema, and
each of them has a meaning. -/
theorem mem_typeNames_iff (hd : r.defineFamily settings family = .ok d) {name : String} :
    (∃ t ∈ d.types, name ∈ t.typeNames) ↔
      ∃ n ∈ family.nodeTypes, ∃ f ∈ n.fields, f.type = name := by
  have hspells := spells_of_defineFamily hd
  constructor
  · rintro ⟨t, ht, hname⟩
    obtain ⟨n, hn, h⟩ := exists_left_of_forall₂ hspells t ht
    exact ⟨n, hn, h.mem_typeNames.mp hname⟩
  · rintro ⟨n, hn, hname⟩
    obtain ⟨t, ht, h⟩ := exists_right_of_forall₂ hspells n hn
    exact ⟨t, ht, h.mem_typeNames.mpr hname⟩

/-- Every type name of a family that can be defined has a meaning. -/
theorem exists_lookup_of_defineFamily (hd : r.defineFamily settings family = .ok d)
    {n : NodeType} (hn : n ∈ family.nodeTypes) {f : FieldSpec} (hf : f ∈ n.fields) :
    ∃ ty, r.lookup family f.type = some ty := by
  obtain ⟨nodes, hnodes, -⟩ := defineFamily_eq_ok.mp hd
  obtain ⟨ty, hty, -⟩ := exists_mem_resolvedFields hnodes hn hf
  exact ⟨ty, hty⟩

/-- A value type is found under its name. -/
theorem name_of_lookup_eq_value {name : String} {v : ValueType}
    (h : r.lookup family name = some (.value v)) : v.name = name := by
  rcases lookup_cases h with hown | ⟨-, g, -, f, -, hincluded⟩ | ⟨-, w, -, hname, hw⟩
  · obtain ⟨target, htarget, -⟩ := Family.lookup_eq_some hown
    cases htarget
  · obtain ⟨target, htarget, -⟩ := Family.lookup_eq_some hincluded
    cases htarget
  · cases hw
    exact hname

/-- A reserved word in a type is the name of a value type that some field has; the names of
families and of node types never are reserved words. -/
theorem mem_typeNames_iff_of_isReserved (hr : r.Valid) (hfamily : family ∈ r.families)
    (hd : r.defineFamily settings family = .ok d) {name : String}
    (hreserved : Name.isReserved name = true) :
    (∃ t ∈ d.types, name ∈ t.typeNames) ↔ ∃ v, r.Uses family (.value v) ∧ v.name = name := by
  rw [mem_typeNames_iff hd]
  constructor
  · rintro ⟨n, hn, f, hf, rfl⟩
    obtain ⟨ty, hty⟩ := exists_lookup_of_defineFamily hd hn hf
    rcases hr.lookup_declarable hfamily hty with hdeclarable | ⟨v, -, hname, rfl⟩
    · rw [hdeclarable.not_reserved] at hreserved
      cases hreserved
    · exact ⟨v, ⟨n, hn, f, hf, hty⟩, hname⟩
  · rintro ⟨v, ⟨n, hn, f, hf, hty⟩, rfl⟩
    exact ⟨n, hn, f, hf, (name_of_lookup_eq_value hty).symm⟩

end Defined

/-- **No reserved word stands in a type just when no value type in use has one for its name.**
When a registered family can be defined, every name in the types of its definitions is an
identifier; one that is a reserved word of the target language is the name of a value type, as
the family sees it; and there is none if and only if the value types that its fields have are
not called by reserved words. -/
theorem not_reserved_typeNames_iff {r : Registry} (hr : r.Reachable) {family : Family}
    (hfamily : family ∈ r.families) {settings : Settings} {d : FamilyDefinition}
    (hd : r.defineFamily settings family = .ok d) :
    (∀ t ∈ d.types, ∀ name ∈ t.typeNames, Name.isIdentifier name = true ∧
      (Name.isReserved name = true → ∃ v, r.lookup family name = some (.value v))) ∧
    ((∀ t ∈ d.types, ∀ name ∈ t.typeNames, Name.isReserved name = false) ↔
      ∀ v, r.Uses family (.value v) → Name.isReserved v.name = false) := by
  have hvalid := hr.valid
  refine ⟨fun t ht name hname => ⟨?_, fun hreserved => ?_⟩, fun h v hv => ?_,
    fun h t ht name hname => ?_⟩
  · obtain ⟨n, hn, f, hf, rfl⟩ := (mem_typeNames_iff hd).mp ⟨t, ht, hname⟩
    exact (((hvalid.families family hfamily).nodeTypes n hn).fields f hf).type
  · obtain ⟨v, ⟨n, -, f, -, hty⟩, rfl⟩ :=
      (mem_typeNames_iff_of_isReserved hvalid hfamily hd hreserved).mp ⟨t, ht, hname⟩
    exact ⟨v, by rw [name_of_lookup_eq_value hty, hty]⟩
  · rw [← Bool.not_eq_true]
    intro hreserved
    obtain ⟨t, ht, hname⟩ :=
      (mem_typeNames_iff_of_isReserved hvalid hfamily hd hreserved).mpr ⟨v, hv, rfl⟩
    rw [h t ht v.name hname] at hreserved
    cases hreserved
  · rw [← Bool.not_eq_true]
    intro hreserved
    obtain ⟨v, hv, rfl⟩ :=
      (mem_typeNames_iff_of_isReserved hvalid hfamily hd hreserved).mp ⟨t, ht, hname⟩
    rw [h v hv] at hreserved
    cases hreserved

/-- A family with a token, with a child and with a node of its own. -/
def groupFamily : Family :=
  ⟨"Expr", [⟨"Group", [.value "Token" "paren", .subtree "Expr" "inner",
    .subtree "Group" "outer"]⟩], []⟩

/-- A registry with the family and with a value type of a reserved name, which the family does
not use. -/
def groupRegistry : Registry :=
  empty.run [.valueType "fn" none, .valueType "Token" none,
    .family groupFamily.name groupFamily.nodeTypes groupFamily.includes]

/-- The reserved word does not come into the types of the family. -/
theorem not_reserved_typeNames_groupFamily :
    groupFamily ∈ groupRegistry.families ∧
    ∃ d, groupRegistry.defineFamily .default groupFamily = .ok d ∧
      ∀ t ∈ d.types, ∀ name ∈ t.typeNames, Name.isReserved name = false := by
  have hmem : groupFamily ∈ groupRegistry.families := by decide
  have hdefine : groupRegistry.defineFamily .default groupFamily = .ok _ := rfl
  refine ⟨hmem, _, hdefine, ?_⟩
  apply (not_reserved_typeNames_iff ⟨_, rfl⟩ hmem hdefine).2.mpr
  rintro v ⟨n, hn, f, hf, hty⟩
  rw [name_of_lookup_eq_value hty]
  obtain rfl := List.mem_singleton.mp hn
  simp only [List.mem_cons, List.not_mem_nil, or_false] at hf
  rcases hf with rfl | rfl | rfl <;> decide

/-- A family with a field whose value type has a reserved name. -/
def keywordFamily : Family :=
  ⟨"Expr", [⟨"Call", [.value "fn" "callee"]⟩], []⟩

/-- A registry with the value type and the family. -/
def keywordRegistry : Registry :=
  empty.run [.valueType "fn" none,
    .family keywordFamily.name keywordFamily.nodeTypes keywordFamily.includes]

/-- **Reserved words do reach types**: a value type of such a name is registered, and a family
with a field of this type is defined. -/
theorem not_forall_not_reserved_typeNames :
    ¬ ∀ (r : Registry) (family : Family) (settings : Settings) (d : FamilyDefinition),
        r.Reachable → family ∈ r.families → r.defineFamily settings family = .ok d →
        ∀ t ∈ d.types, ∀ name ∈ t.typeNames,
          Name.isIdentifier name = true ∧ Name.isReserved name = false := by
  intro h
  have hdefine : keywordRegistry.defineFamily .default keywordFamily = .ok _ := rfl
  have hname := h keywordRegistry keywordFamily .default _ ⟨_, rfl⟩ (by decide) hdefine
    _ List.mem_cons_self "fn" (by decide)
  exact absurd hname.2 (by decide)

end Registry

end TreeSmith
