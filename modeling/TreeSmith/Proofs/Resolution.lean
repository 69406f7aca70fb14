import TreeSmith.Definition.Family
import TreeSmith.Proofs.Registration

/-!
# What resolution finds

A type name found from inside a family is the name of what was found, and what was
found is declared by the family itself, by a family that it includes, or as a value
type — in this order, so that a name the family declares is never looked for
elsewhere.  The definition of a family resolves every field of every node type, each
on its own.

## Main definitions

* `TypeRef.target?` — the subtree that a type name stands for.
* `Registry.Uses`, `Registry.Targets` — what the fields of a family are about.

## Main results

* `Registry.lookup_cases` — where a name was found.
* `Registry.resolveField_eq_ok` — what a resolved field is.
* `Registry.resolveNodes_eq_ok` — node types are resolved field by field.
-/

namespace TreeSmith

/-- The subtree that a type name stands for, if it stands for one. -/
def TypeRef.target? : TypeRef → Option TreeTarget
  | .value _ => none
  | .base f => some (.base f.name)
  | .node f n => some (.node f.name n.name)

/-! ### Names in one family -/

theorem Family.lookup_eq_none {f : Family} {name : String} :
    f.lookup name = none ↔ name ≠ f.name ∧ name ∉ f.nodeTypes.map (·.name) := by
  unfold Family.lookup Family.nodeType?
  split
  · next h => simp [h]
  · next h =>
    rw [Option.map_eq_none_iff, List.find?_eq_none]
    simp [Ne.symm h]

/-- A type that a family declares has the name by which it was found, and belongs to
the family. -/
theorem Family.lookup_eq_some {f : Family} {name : String} {ty : TypeRef}
    (h : f.lookup name = some ty) :
    ∃ target, ty.target? = some target ∧ target.family = f.name ∧ target.typeName = name := by
  unfold Family.lookup at h
  split at h
  · next hname =>
    obtain rfl := Option.some.inj h
    exact ⟨.base f.name, rfl, rfl, hname⟩
  · obtain ⟨n, hn, rfl⟩ := Option.map_eq_some_iff.mp h
    have hname : n.name = name := by simpa using List.find?_some hn
    exact ⟨.node f.name n.name, rfl, rfl, hname⟩

namespace Registry

theorem name_of_family? {r : Registry} {name : String} {f : Family}
    (h : r.family? name = some f) : f.name = name := by
  simpa using List.find?_some h

/-! ### Names in scope -/

theorem lookupIncluded_eq_some {r : Registry} {name : String} {includes : List String}
    {ty : TypeRef} (h : r.lookupIncluded name includes = some ty) :
    ∃ g ∈ includes, ∃ f, r.family? g = some f ∧ f.lookup name = some ty := by
  induction includes with
  | nil => simp [lookupIncluded] at h
  | cons g more ih =>
    rw [lookupIncluded, Option.or_eq_some_iff] at h
    rcases h with h | ⟨-, h⟩
    · obtain ⟨f, hf, hty⟩ := Option.bind_eq_some_iff.mp h
      exact ⟨g, List.mem_cons_self, f, hf, hty⟩
    · obtain ⟨g', hg', hrest⟩ := ih h
      exact ⟨g', List.mem_cons_of_mem _ hg', hrest⟩

/-- **Where a name was found**: in the family itself, or else in an included family, or
else among the value types. -/
theorem lookup_cases {r : Registry} {family : Family} {name : String} {ty : TypeRef}
    (h : r.lookup family name = some ty) :
    family.lookup name = some ty ∨
    (family.lookup name = none ∧
      ∃ g ∈ family.includes, ∃ f, r.family? g = some f ∧ f.lookup name = some ty) ∨
    (family.lookup name = none ∧ ∃ v ∈ r.valueTypes, v.name = name ∧ ty = .value v) := by
  rw [lookup, Option.or_eq_some_iff] at h
  rcases h with h | ⟨hnone, h⟩
  · rw [Option.or_eq_some_iff] at h
    rcases h with h | ⟨hown, h⟩
    · exact .inl h
    · exact .inr (.inl ⟨hown, lookupIncluded_eq_some h⟩)
  · obtain ⟨v, hv, rfl⟩ := Option.map_eq_some_iff.mp h
    refine .inr (.inr ⟨(Option.or_eq_none_iff.mp hnone).1, v, List.mem_of_find?_eq_some hv, ?_, rfl⟩)
    simpa using List.find?_some hv

/-- A subtree is found under its own name. -/
theorem typeName_of_lookup {r : Registry} {family : Family} {name : String} {ty : TypeRef}
    {target : TreeTarget} (h : r.lookup family name = some ty)
    (htarget : ty.target? = some target) : target.typeName = name := by
  rcases lookup_cases h with hown | ⟨-, g, -, f, -, hf⟩ | ⟨-, v, -, -, rfl⟩
  · obtain ⟨target', htarget', -, hname⟩ := Family.lookup_eq_some hown
    obtain rfl := Option.some.inj (htarget.symm.trans htarget')
    exact hname
  · obtain ⟨target', htarget', -, hname⟩ := Family.lookup_eq_some hf
    obtain rfl := Option.some.inj (htarget.symm.trans htarget')
    exact hname
  · simp [TypeRef.target?] at htarget

/-- A subtree that another family declares is found there only when the family itself
declares nothing of its name, and that other family is included. -/
theorem foreign_of_lookup {r : Registry} {family : Family} {name : String} {ty : TypeRef}
    {target : TreeTarget} (h : r.lookup family name = some ty)
    (htarget : ty.target? = some target) (hforeign : target.family ≠ family.name) :
    target.family ∈ family.includes ∧ family.lookup name = none := by
  rcases lookup_cases h with hown | ⟨hnone, g, hg, f, hfam, hf⟩ | ⟨-, v, -, -, rfl⟩
  · obtain ⟨target', htarget', hfamily, -⟩ := Family.lookup_eq_some hown
    obtain rfl := Option.some.inj (htarget.symm.trans htarget')
    exact absurd hfamily hforeign
  · obtain ⟨target', htarget', hfamily, -⟩ := Family.lookup_eq_some hf
    obtain rfl := Option.some.inj (htarget.symm.trans htarget')
    rw [hfamily, name_of_family? hfam]
    exact ⟨hg, hnone⟩
  · simp [TypeRef.target?] at htarget

/-- A subtree that the family itself declares is found there, as long as the family does
not include itself. -/
theorem own_of_lookup {r : Registry} {family : Family} {name : String} {ty : TypeRef}
    {target : TreeTarget} (h : r.lookup family name = some ty)
    (htarget : ty.target? = some target) (hown : target.family = family.name)
    (hself : family.name ∉ family.includes) : family.lookup name = some ty := by
  rcases lookup_cases h with hfound | ⟨-, g, hg, f, hfam, hf⟩ | ⟨-, v, -, -, rfl⟩
  · exact hfound
  · obtain ⟨target', htarget', hfamily, -⟩ := Family.lookup_eq_some hf
    obtain rfl := Option.some.inj (htarget.symm.trans htarget')
    rw [hfamily, name_of_family? hfam] at hown
    exact absurd (hown ▸ hg) hself
  · simp [TypeRef.target?] at htarget

/-! ### Resolved fields -/

theorem fieldKind_eq_value {nodeType : String} {f : FieldSpec} {policy : Ownership}
    {ty : TypeRef} {path : Option String}
    (h : fieldKind nodeType f policy ty = .ok (.value path)) :
    f.tree = false ∧ ∃ v, ty = .value v ∧ v.path = path := by
  cases ty with
  | value v =>
    simp only [fieldKind, guard_eq_ok, Except.ok.injEq, FieldKind.value.injEq,
      Bool.not_eq_true] at h
    exact ⟨h.1, v, rfl, h.2.2⟩
  | base g => simp only [fieldKind] at h; split at h <;> simp at h
  | node g n => simp only [fieldKind] at h; split at h <;> simp at h

theorem fieldKind_eq_tree {nodeType : String} {f : FieldSpec} {policy owner : Ownership}
    {ty : TypeRef} {target : TreeTarget}
    (h : fieldKind nodeType f policy ty = .ok (.tree owner target)) :
    f.tree = true ∧ ty.target? = some target ∧ owner = f.ownership.getD policy := by
  cases ty with
  | value v => simp [fieldKind, guard_eq_ok] at h
  | base g =>
    simp only [fieldKind] at h
    split at h
    · next htree =>
      simp only [Except.ok.injEq, FieldKind.tree.injEq] at h
      exact ⟨htree, congrArg some h.2, h.1.symm⟩
    · simp at h
  | node g n =>
    simp only [fieldKind] at h
    split at h
    · next htree =>
      simp only [Except.ok.injEq, FieldKind.tree.injEq] at h
      exact ⟨htree, congrArg some h.2, h.1.symm⟩
    · simp at h

/-- A field is resolved when its type name has a meaning that fits it. -/
theorem resolveField_eq_ok {r : Registry} {family : Family} {policy : Ownership}
    {nodeType : String} {f : FieldSpec} {resolved : ResolvedField} :
    r.resolveField family policy nodeType f = .ok resolved ↔
      ∃ ty, r.lookup family f.type = some ty ∧
        ∃ kind, fieldKind nodeType f policy ty = .ok kind ∧
          resolved = ⟨f.name, f.type, f.repeated, kind⟩ := by
  simp only [@eq_comm ResolvedField resolved]
  unfold resolveField
  split
  · next hnone => simp [hnone]
  · next ty hty =>
    simp only [bind_eq_ok, pure, Except.pure, Except.ok.injEq, hty, Option.some.injEq,
      exists_eq_left']

theorem resolveFields_eq_ok {r : Registry} {family : Family} {policy : Ownership}
    {nodeType : String} {fields : List FieldSpec} : ∀ {resolved : List ResolvedField},
    r.resolveFields family policy nodeType fields = .ok resolved ↔
      List.Forall₂ (fun f x => r.resolveField family policy nodeType f = .ok x)
        fields resolved := by
  induction fields with
  | nil => intro resolved; simp [resolveFields, eq_comm]
  | cons f more ih =>
    intro resolved
    simp only [resolveFields, bind_eq_ok, pure, Except.pure, Except.ok.injEq, ih,
      List.forall₂_cons_left_iff]
    constructor
    · rintro ⟨x, hx, xs, hxs, rfl⟩; exact ⟨x, xs, hx, hxs, rfl⟩
    · rintro ⟨x, xs, hx, hxs, rfl⟩; exact ⟨x, hx, xs, hxs, rfl⟩

/-- **Node types are resolved field by field**, in order and under their names. -/
theorem resolveNodes_eq_ok {r : Registry} {family : Family} {policy : Ownership}
    {nodeTypes : List NodeType} : ∀ {nodes : List (String × List ResolvedField)},
    r.resolveNodes family policy nodeTypes = .ok nodes ↔
      List.Forall₂ (fun n node => node.1 = n.name ∧
        List.Forall₂ (fun f x => r.resolveField family policy n.name f = .ok x)
          n.fields node.2) nodeTypes nodes := by
  induction nodeTypes with
  | nil => intro nodes; simp [resolveNodes, eq_comm]
  | cons n more ih =>
    intro nodes
    simp only [resolveNodes, resolve, bind_eq_ok, pure, Except.pure, Except.ok.injEq, ih,
      resolveFields_eq_ok, List.forall₂_cons_left_iff]
    constructor
    · rintro ⟨fields, hfields, rest, hrest, rfl⟩
      exact ⟨(n.name, fields), rest, ⟨rfl, hfields⟩, hrest, rfl⟩
    · rintro ⟨⟨name, fields⟩, rest, ⟨rfl, hfields⟩, hrest, rfl⟩
      exact ⟨fields, hfields, rest, hrest, rfl⟩

/-- The resolved fields are the fields of the node types with the kinds that fit them. -/
theorem mem_resolvedFields {r : Registry} {family : Family} {policy : Ownership}
    {nodeTypes : List NodeType} {nodes : List (String × List ResolvedField)}
    (h : r.resolveNodes family policy nodeTypes = .ok nodes) {x : ResolvedField} :
    x ∈ nodes.flatMap (·.2) ↔ ∃ n ∈ nodeTypes, ∃ f ∈ n.fields,
      ∃ ty, r.lookup family f.type = some ty ∧ ∃ kind, fieldKind n.name f policy ty = .ok kind ∧
        x = ⟨f.name, f.type, f.repeated, kind⟩ := by
  have hpaired := resolveNodes_eq_ok.mp h
  simp only [List.mem_flatMap, ← resolveField_eq_ok]
  constructor
  · rintro ⟨node, hnode, hx⟩
    obtain ⟨n, hn, -, hfields⟩ := exists_left_of_forall₂ hpaired node hnode
    obtain ⟨f, hf, hok⟩ := exists_left_of_forall₂ hfields x hx
    exact ⟨n, hn, f, hf, hok⟩
  · rintro ⟨n, hn, f, hf, hok⟩
    obtain ⟨node, hnode, -, hfields⟩ := exists_right_of_forall₂ hpaired n hn
    obtain ⟨y, hy, hok'⟩ := exists_right_of_forall₂ hfields f hf
    obtain rfl := Except.ok.inj (hok.symm.trans hok')
    exact ⟨node, hnode, hy⟩

/-- When node types are resolved, each of their fields is among the resolved ones. -/
theorem exists_mem_resolvedFields {r : Registry} {family : Family} {policy : Ownership}
    {nodeTypes : List NodeType} {nodes : List (String × List ResolvedField)}
    (h : r.resolveNodes family policy nodeTypes = .ok nodes) {n : NodeType} (hn : n ∈ nodeTypes)
    {f : FieldSpec} (hf : f ∈ n.fields) :
    ∃ ty, r.lookup family f.type = some ty ∧ ∃ kind, fieldKind n.name f policy ty = .ok kind ∧
      ⟨f.name, f.type, f.repeated, kind⟩ ∈ nodes.flatMap (·.2) := by
  obtain ⟨node, -, -, hfields⟩ := exists_right_of_forall₂ (resolveNodes_eq_ok.mp h) n hn
  obtain ⟨x, -, hok⟩ := exists_right_of_forall₂ hfields f hf
  obtain ⟨ty, hty, kind, hfit, -⟩ := resolveField_eq_ok.mp hok
  exact ⟨ty, hty, kind, hfit, (mem_resolvedFields h).mpr ⟨n, hn, f, hf, ty, hty, kind, hfit, rfl⟩⟩

/-! ### What the fields are about -/

/-- Some field of the family has a type of this meaning. -/
def Uses (r : Registry) (family : Family) (ty : TypeRef) : Prop :=
  ∃ n ∈ family.nodeTypes, ∃ f ∈ n.fields, r.lookup family f.type = some ty

/-- Some field of the family has this subtree as its type. -/
def Targets (r : Registry) (family : Family) (target : TreeTarget) : Prop :=
  ∃ ty, r.Uses family ty ∧ ty.target? = some target

/-- What a family's fields are about is found again under its own name. -/
theorem Targets.lookup {r : Registry} {family : Family} {target : TreeTarget}
    (h : r.Targets family target) :
    ∃ ty, r.lookup family target.typeName = some ty ∧ ty.target? = some target := by
  obtain ⟨ty, ⟨n, -, f, -, hty⟩, htarget⟩ := h
  rw [typeName_of_lookup hty htarget]
  exact ⟨ty, hty, htarget⟩

/-- The name of a subtree tells it apart from the others that the fields are about. -/
theorem Targets.eq_of_typeName_eq {r : Registry} {family : Family} {a b : TreeTarget}
    (ha : r.Targets family a) (hb : r.Targets family b) (h : a.typeName = b.typeName) :
    a = b := by
  obtain ⟨s, hs, hsa⟩ := ha.lookup
  obtain ⟨t, ht, htb⟩ := hb.lookup
  rw [h, ht] at hs
  obtain rfl := Option.some.inj hs
  exact Option.some.inj (hsa.symm.trans htb)

end Registry

end TreeSmith
