import TreeSmith.Proofs.Resolution

/-!
# The imports of a module

A generated module spells the types of its fields by their simple names.  Such a name
has to mean, inside the module, the very type that resolution chose: one that the
module declares, or one that exactly one of its lines imports from the module of the
family that declares it.

Two collectors write the lines, one family after another and one path after another,
from the same resolved fields.  What ties them together is that a name has one meaning
for all fields of a family: two fields that spell the same name are about the same
subtree, so no name is imported from two modules, and none that the family declares is
imported at all.

## Main definitions

* `FamilyDefinition.Binds` — the families from which a module has a name.
* `FamilyDefinition.ImportsExact` — the module imports what its fields need and nothing
  else.

## Main results

* `mem_includeLines`, `mem_supportImports` — what the collectors write.
* `importsExact_of_defineFamily` — **every module imports exactly what it needs.**
-/

namespace TreeSmith

/-! ### The collectors -/

theorem ResolvedField.targetIn?_eq_some {x : ResolvedField} {family name : String} :
    x.targetIn? family = some name ↔
      ∃ policy target, x.kind = .tree policy target ∧ target.family = family ∧
        target.typeName = name := by
  unfold ResolvedField.targetIn?
  cases x.kind with
  | value path => simp
  | tree policy target => simp [and_assoc]

theorem ResolvedField.policy?_eq_some {x : ResolvedField} {owner : Ownership} :
    x.policy? = some owner ↔ ∃ target, x.kind = .tree owner target := by
  unfold ResolvedField.policy?
  cases x.kind <;> simp

theorem ResolvedField.importPath?_eq_some {x : ResolvedField} {path : String} :
    x.importPath? = some path ↔ x.kind = .value (some path) := by
  unfold ResolvedField.importPath?
  cases x.kind <;> simp

/-- An accessor is checked for the fields whose absence is a fault. -/
theorem ResolvedField.checked_accessor (nodeType : String) (x : ResolvedField) :
    (x.accessor nodeType).checked = x.isChecked := by
  unfold ResolvedField.accessor ResolvedField.isChecked ResolvedField.policy?
  rcases x with ⟨name, typeName, repeated, kind⟩
  cases kind with
  | value path => cases repeated <;> rfl
  | tree policy target => cases policy <;> cases repeated <;> rfl

theorem mem_namesFrom {family name : String} {fields : List ResolvedField} :
    name ∈ namesFrom family fields ↔
      ∃ x ∈ fields, ∃ policy target, x.kind = .tree policy target ∧ target.family = family ∧
        target.typeName = name := by
  simp only [namesFrom, mem_distinct, List.mem_filterMap, ResolvedField.targetIn?_eq_some]

/-- The lines are those of the included families of which some type is named. -/
theorem mem_includeLines {root : String} {includes : List String} {fields : List ResolvedField}
    {line : IncludeLine} :
    line ∈ includeLines root includes fields ↔
      line.family ∈ includes ∧ line = ⟨root, line.family, namesFrom line.family fields⟩ ∧
        line.names ≠ [] := by
  simp only [includeLines, List.mem_filter, List.mem_map, Bool.not_eq_true', List.isEmpty_eq_false_iff]
  constructor
  · rintro ⟨⟨g, hg, rfl⟩, hnames⟩
    exact ⟨hg, rfl, hnames⟩
  · rintro ⟨hg, hline, hnames⟩
    exact ⟨⟨line.family, hg, hline.symm⟩, hnames⟩

theorem nodup_includeLines {root : String} {includes : List String} (h : includes.Nodup)
    (fields : List ResolvedField) : (includeLines root includes fields).Nodup := by
  refine (h.map ?_).filter _
  intro a b hab
  exact (IncludeLine.mk.inj hab).2.1

/-- No line names a type twice. -/
theorem nodup_names_of_mem {root : String} {includes : List String} {fields : List ResolvedField}
    {line : IncludeLine} (h : line ∈ includeLines root includes fields) : line.names.Nodup := by
  obtain ⟨-, hline, -⟩ := mem_includeLines.mp h
  rw [hline]
  exact nodup_distinct _

theorem mem_supportImports {root path : String} {fields : List ResolvedField} :
    path ∈ supportImports root fields ↔
      ((∃ x ∈ fields, x.policy? = some .shared) ∧ path = "std::rc::Rc") ∨
      ((∃ x ∈ fields, x.isChecked = true) ∧ path = root ++ "::" ++ nullChildError) ∨
      ∃ x ∈ fields, x.importPath? = some path := by
  simp only [supportImports, mem_distinct, List.mem_append, List.mem_ite_nil_right,
    List.mem_singleton, List.any_eq_true, List.mem_filterMap, beq_iff_eq, or_assoc]

/-! ### Resolved fields and what the fields are about -/

section Resolved

variable {r : Registry} {family : Family} {policy : Ownership}
  {nodes : List (String × List ResolvedField)}

/-- Some resolved field holds a subtree exactly when some field is about it. -/
theorem exists_tree_iff_targets
    (h : r.resolveNodes family policy family.nodeTypes = .ok nodes) {target : TreeTarget} :
    (∃ x ∈ nodes.flatMap (·.2), ∃ owner, x.kind = .tree owner target) ↔
      r.Targets family target := by
  constructor
  · rintro ⟨x, hx, owner, hkind⟩
    obtain ⟨n, hn, f, hf, ty, hty, kind, hfit, rfl⟩ := (Registry.mem_resolvedFields h).mp hx
    obtain rfl : kind = .tree owner target := hkind
    exact ⟨ty, ⟨n, hn, f, hf, hty⟩, (Registry.fieldKind_eq_tree hfit).2.1⟩
  · rintro ⟨ty, ⟨n, hn, f, hf, hty⟩, htarget⟩
    obtain ⟨ty', hty', kind, hfit, hx⟩ := Registry.exists_mem_resolvedFields h hn hf
    refine ⟨_, hx, ?_⟩
    obtain rfl := Option.some.inj (hty.symm.trans hty')
    cases kind with
    | value path =>
      obtain ⟨-, v, rfl, -⟩ := Registry.fieldKind_eq_value hfit
      simp [TypeRef.target?] at htarget
    | tree owner target' =>
      obtain ⟨-, htarget', -⟩ := Registry.fieldKind_eq_tree hfit
      obtain rfl := Option.some.inj (htarget.symm.trans htarget')
      exact ⟨owner, rfl⟩

/-- Some resolved field has a value of a type with this path exactly when some field's
type is such a value type. -/
theorem exists_importPath_iff_uses
    (h : r.resolveNodes family policy family.nodeTypes = .ok nodes) {path : String} :
    (∃ x ∈ nodes.flatMap (·.2), x.importPath? = some path) ↔
      ∃ v, r.Uses family (.value v) ∧ v.path = some path := by
  constructor
  · rintro ⟨x, hx, hpath⟩
    obtain ⟨n, hn, f, hf, ty, hty, kind, hfit, rfl⟩ := (Registry.mem_resolvedFields h).mp hx
    obtain rfl : kind = .value (some path) := ResolvedField.importPath?_eq_some.mp hpath
    obtain ⟨-, v, rfl, hv⟩ := Registry.fieldKind_eq_value hfit
    exact ⟨v, ⟨n, hn, f, hf, hty⟩, hv⟩
  · rintro ⟨v, ⟨n, hn, f, hf, hty⟩, hv⟩
    obtain ⟨ty', hty', kind, hfit, hx⟩ := Registry.exists_mem_resolvedFields h hn hf
    refine ⟨_, hx, ?_⟩
    obtain rfl := Option.some.inj (hty.symm.trans hty')
    cases kind with
    | value path' =>
      obtain ⟨-, w, hw, hpath⟩ := Registry.fieldKind_eq_value hfit
      obtain rfl := TypeRef.value.inj hw
      rw [ResolvedField.importPath?_eq_some, ← hv, hpath]
    | tree owner target =>
      obtain ⟨-, htarget, -⟩ := Registry.fieldKind_eq_tree hfit
      simp [TypeRef.target?] at htarget

/-- Some resolved subtree is shared exactly when some field for a subtree is, by its
own ownership or by that of the run. -/
theorem exists_shared_iff (h : r.resolveNodes family policy family.nodeTypes = .ok nodes) :
    (∃ x ∈ nodes.flatMap (·.2), x.policy? = some .shared) ↔
      ∃ n ∈ family.nodeTypes, ∃ f ∈ n.fields, f.tree = true ∧
        f.ownership.getD policy = .shared := by
  constructor
  · rintro ⟨x, hx, hshared⟩
    obtain ⟨n, hn, f, hf, ty, hty, kind, hfit, rfl⟩ := (Registry.mem_resolvedFields h).mp hx
    obtain ⟨target, hkind⟩ := ResolvedField.policy?_eq_some.mp hshared
    obtain rfl : kind = .tree .shared target := hkind
    obtain ⟨htree, -, howner⟩ := Registry.fieldKind_eq_tree hfit
    exact ⟨n, hn, f, hf, htree, howner.symm⟩
  · rintro ⟨n, hn, f, hf, htree, hshared⟩
    obtain ⟨ty, hty, kind, hfit, hx⟩ := Registry.exists_mem_resolvedFields h hn hf
    refine ⟨_, hx, ?_⟩
    cases kind with
    | value path =>
      obtain ⟨hvalue, -⟩ := Registry.fieldKind_eq_value hfit
      rw [htree] at hvalue
      cases hvalue
    | tree owner target =>
      obtain ⟨-, -, howner⟩ := Registry.fieldKind_eq_tree hfit
      rw [hshared] at howner
      rw [ResolvedField.policy?_eq_some]
      exact ⟨target, howner ▸ rfl⟩

/-- Some accessor is checked exactly when some resolved field is. -/
theorem exists_checked_iff {base : String} {nodes : List (String × List ResolvedField)} :
    (∃ x ∈ nodes.flatMap (·.2), x.isChecked = true) ↔
      ∃ ty ∈ nodes.map fun node => TypeDefinition.of node.1 base node.2,
        ∃ a ∈ ty.accessors, a.checked = true := by
  simp only [List.mem_flatMap, List.mem_map, exists_exists_and_eq_and, TypeDefinition.of,
    ResolvedField.checked_accessor]
  constructor
  · rintro ⟨x, ⟨node, hnode, hx⟩, hchecked⟩; exact ⟨node, hnode, x, hx, hchecked⟩
  · rintro ⟨node, hnode, x, hx, hchecked⟩; exact ⟨x, ⟨node, hnode, hx⟩, hchecked⟩

end Resolved

/-! ### The module of a family -/

/-- The module has a name from a family: it declares the type itself, or it imports it
from the module of that family. -/
def FamilyDefinition.Binds (d : FamilyDefinition) (name family : String) : Prop :=
  (family = d.family ∧ (name = d.family ∨ name ∈ d.types.map (·.name))) ∨
    ∃ line ∈ d.includes, line.family = family ∧ name ∈ line.names

/-- The definition of a node type spells, for each field, the type name of the
schema. -/
structure TypeDefinition.Spells (ty : TypeDefinition) (n : NodeType) : Prop where
  /-- The definition is that of the node type. -/
  name : ty.name = n.name
  /-- In the parameters of the constructor. -/
  params : ty.params.map (·.type.element) = n.fields.map (·.type)
  /-- In the slots. -/
  storage : ty.storage.map (·.type.element) = n.fields.map (·.type)
  /-- In the accessors. -/
  accessors : ty.accessors.map (·.returnType.element) = n.fields.map (·.type)

/-- The module of a family imports what its fields need, and nothing else. -/
structure FamilyDefinition.ImportsExact (d : FamilyDefinition) (r : Registry)
    (settings : Settings) (family : Family) : Prop where
  /-- The definitions spell the type names of the schema. -/
  spelled : List.Forall₂ (fun n ty => TypeDefinition.Spells ty n) family.nodeTypes d.types
  /-- Such a name is had from the family that declares the type, and from no other. -/
  bound : ∀ target, r.Targets family target → ∀ g,
    d.Binds target.typeName g ↔ g = target.family
  /-- A type of another family is in one line, that of its family. -/
  foreign : ∀ target, r.Targets family target → target.family ≠ family.name →
    ∃ line, d.includes.filter (target.typeName ∈ ·.names) = [line] ∧
      line.family = target.family ∧
      line.modulePath = settings.generator.moduleRoot ++ "::" ++ Name.snakeCase target.family
  /-- No name is in two places of the lines. -/
  listed_nodup : (d.includes.flatMap (·.names)).Nodup
  /-- No name in the lines is one that the family declares. -/
  listed_foreign : ∀ name ∈ d.includes.flatMap (·.names),
    name ≠ family.name ∧ name ∉ family.nodeTypes.map (·.name)
  /-- A name in a line is that of a type that a field is about. -/
  listed_used : ∀ line ∈ d.includes, ∀ name ∈ line.names,
    ∃ target, r.Targets family target ∧ target.family = line.family ∧ target.typeName = name
  /-- An included family has a line exactly when some field is about one of its types. -/
  line_iff : ∀ g, (∃ line ∈ d.includes, line.family = g) ↔
    g ∈ family.includes ∧ ∃ target, r.Targets family target ∧ target.family = g
  /-- No path is imported twice. -/
  imports_nodup : d.imports.Nodup
  /-- The paths are those of the shared pointer, of the error of checked accessors, and
  of the value types in use, where they are needed. -/
  mem_imports : ∀ path, path ∈ d.imports ↔
    ((∃ n ∈ family.nodeTypes, ∃ f ∈ n.fields, f.tree = true ∧
      f.ownership.getD (settings.policyFor family.name) = .shared) ∧ path = "std::rc::Rc") ∨
    ((∃ ty ∈ d.types, ∃ a ∈ ty.accessors, a.checked = true) ∧
      path = settings.generator.moduleRoot ++ "::" ++ "NullChildError") ∨
    ∃ v, r.Uses family (.value v) ∧ v.path = some path

/-! ### The definition of a family -/

theorem Registry.defineFamily_eq_ok {r : Registry} {settings : Settings} {family : Family}
    {d : FamilyDefinition} :
    r.defineFamily settings family = .ok d ↔
      ∃ nodes, r.resolveNodes family (settings.policyFor family.name) family.nodeTypes
          = .ok nodes ∧
        d = ⟨family.name, nodes.map fun node => .of node.1 family.name node.2,
          supportImports settings.generator.moduleRoot (nodes.flatMap (·.2)),
          includeLines settings.generator.moduleRoot family.includes (nodes.flatMap (·.2))⟩ := by
  simp only [@eq_comm FamilyDefinition d]
  simp only [Registry.defineFamily, bind_eq_ok, pure, Except.pure, Except.ok.injEq]

/-- The core of a field's types is the name that the schema gives. -/
theorem element_of_resolveField {r : Registry} {family : Family} {policy : Ownership}
    {nodeType : String} {f : FieldSpec} {x : ResolvedField}
    (h : r.resolveField family policy nodeType f = .ok x) :
    x.storageType.element = f.type ∧ (x.accessor nodeType).returnType.element = f.type := by
  obtain ⟨ty, hty, kind, hfit, rfl⟩ := Registry.resolveField_eq_ok.mp h
  unfold ResolvedField.storageType ResolvedField.accessor
  cases kind with
  | value path => cases f.repeated <;> exact ⟨rfl, rfl⟩
  | tree owner target =>
    have htarget : target.type.element = f.type := by
      have hname := Registry.typeName_of_lookup hty (Registry.fieldKind_eq_tree hfit).2.1
      cases target <;> exact hname
    cases owner <;> cases f.repeated <;> exact ⟨htarget, htarget⟩

/-- The definition of a resolved node type spells its fields' types. -/
theorem spells_of_resolveNodes {r : Registry} {family : Family} {policy : Ownership}
    {nodeTypes : List NodeType} {nodes : List (String × List ResolvedField)}
    (h : r.resolveNodes family policy nodeTypes = .ok nodes) :
    List.Forall₂ (fun n ty => TypeDefinition.Spells ty n) nodeTypes
      (nodes.map fun node => .of node.1 family.name node.2) := by
  rw [List.forall₂_map_right_iff]
  refine (Registry.resolveNodes_eq_ok.mp h).imp ?_
  rintro n ⟨name, fields⟩ ⟨rfl, hfields⟩
  have hstorage : fields.map (·.slot.type.element) = n.fields.map (·.type) :=
    map_eq_map_of_forall₂ (hfields.imp fun f x hx => (element_of_resolveField hx).1)
  have haccessors : (fields.map fun x => (x.accessor n.name).returnType.element) =
      n.fields.map (·.type) :=
    map_eq_map_of_forall₂ (hfields.imp fun f x hx => (element_of_resolveField hx).2)
  constructor
  · rfl
  · rw [← hstorage, TypeDefinition.of, List.map_map]; rfl
  · rw [← hstorage, TypeDefinition.of, List.map_map]; rfl
  · rw [← haccessors, TypeDefinition.of, List.map_map]; rfl

section Lines

variable {r : Registry} {settings : Settings} {family : Family} {d : FamilyDefinition}

/-- The definitions of a family spell the type names of its schema. -/
theorem spells_of_defineFamily (hd : r.defineFamily settings family = .ok d) :
    List.Forall₂ (fun n ty => TypeDefinition.Spells ty n) family.nodeTypes d.types := by
  obtain ⟨nodes, hnodes, rfl⟩ := Registry.defineFamily_eq_ok.mp hd
  exact spells_of_resolveNodes hnodes

/-- A name in a line is that of a type of the line's family that some field is about. -/
theorem targets_of_mem_names (hd : r.defineFamily settings family = .ok d)
    {line : IncludeLine} (hline : line ∈ d.includes) {name : String} (hname : name ∈ line.names) :
    ∃ target, r.Targets family target ∧ target.family = line.family ∧
      target.typeName = name := by
  obtain ⟨nodes, hnodes, rfl⟩ := Registry.defineFamily_eq_ok.mp hd
  obtain ⟨-, hline, -⟩ := mem_includeLines.mp hline
  rw [hline, mem_namesFrom] at hname
  obtain ⟨x, hx, owner, target, hkind, hfamily, hname⟩ := hname
  exact ⟨target, (exists_tree_iff_targets hnodes).mp ⟨x, hx, owner, hkind⟩, hfamily, hname⟩

/-- A type of an included family that some field is about has a line. -/
theorem exists_line_of_targets (hd : r.defineFamily settings family = .ok d)
    {target : TreeTarget} (htarget : r.Targets family target)
    (hincluded : target.family ∈ family.includes) :
    ∃ line ∈ d.includes, line.root = settings.generator.moduleRoot ∧
      line.family = target.family ∧ target.typeName ∈ line.names := by
  obtain ⟨nodes, hnodes, rfl⟩ := Registry.defineFamily_eq_ok.mp hd
  obtain ⟨x, hx, owner, hkind⟩ := (exists_tree_iff_targets hnodes).mpr htarget
  have hname : target.typeName ∈ namesFrom target.family (nodes.flatMap (·.2)) :=
    mem_namesFrom.mpr ⟨x, hx, owner, target, hkind, rfl, rfl⟩
  refine ⟨⟨_, target.family, namesFrom target.family (nodes.flatMap (·.2))⟩, ?_, rfl, rfl, hname⟩
  exact mem_includeLines.mpr ⟨hincluded, rfl, List.ne_nil_of_mem hname⟩

/-- A line belongs to an included family, and some field is about a type of it. -/
theorem exists_targets_of_mem_includes (hd : r.defineFamily settings family = .ok d)
    {line : IncludeLine} (hline : line ∈ d.includes) :
    line.family ∈ family.includes ∧
      ∃ target, r.Targets family target ∧ target.family = line.family := by
  have hmem : line.family ∈ family.includes ∧ line.names ≠ [] := by
    obtain ⟨nodes, -, rfl⟩ := Registry.defineFamily_eq_ok.mp hd
    obtain ⟨hincluded, -, hne⟩ := mem_includeLines.mp hline
    exact ⟨hincluded, hne⟩
  obtain ⟨name, hname⟩ := List.exists_mem_of_ne_nil _ hmem.2
  obtain ⟨target, htarget, hfamily, -⟩ := targets_of_mem_names hd hline hname
  exact ⟨hmem.1, target, htarget, hfamily⟩

/-- A name is in the line of one family only. -/
theorem eq_of_mem_names (hd : r.defineFamily settings family = .ok d) {a b : IncludeLine}
    (ha : a ∈ d.includes) (hb : b ∈ d.includes) {name : String} (hna : name ∈ a.names)
    (hnb : name ∈ b.names) : a = b := by
  obtain ⟨s, hs, hsa, hsname⟩ := targets_of_mem_names hd ha hna
  obtain ⟨t, ht, htb, htname⟩ := targets_of_mem_names hd hb hnb
  have hst : s = t := hs.eq_of_typeName_eq ht (hsname.trans htname.symm)
  have hfamily : a.family = b.family := by rw [← hsa, ← htb, hst]
  -- the line is determined by its family
  obtain ⟨nodes, -, rfl⟩ := Registry.defineFamily_eq_ok.mp hd
  obtain ⟨-, ha, -⟩ := mem_includeLines.mp ha
  obtain ⟨-, hb, -⟩ := mem_includeLines.mp hb
  rw [ha, hb, hfamily]

theorem nodup_includes (hd : r.defineFamily settings family = .ok d)
    (hincludes : family.includes.Nodup) : d.includes.Nodup := by
  obtain ⟨nodes, -, rfl⟩ := Registry.defineFamily_eq_ok.mp hd
  exact nodup_includeLines hincludes _

/-- The lines together name no type twice. -/
theorem nodup_flatMap_names (hd : r.defineFamily settings family = .ok d)
    (hincludes : family.includes.Nodup) : (d.includes.flatMap (·.names)).Nodup := by
  rw [List.nodup_flatMap]
  constructor
  · intro line hline
    obtain ⟨nodes, -, rfl⟩ := Registry.defineFamily_eq_ok.mp hd
    exact nodup_names_of_mem hline
  · refine (nodup_includes hd hincludes).pairwise_of_forall_ne fun a ha b hb hne => ?_
    intro name hna hnb
    exact hne (eq_of_mem_names hd ha hb hna hnb)

/-- No line names a type that the family declares, as long as the family does not
include itself. -/
theorem lookup_eq_none_of_mem_names (hd : r.defineFamily settings family = .ok d)
    (hself : family.name ∉ family.includes) {line : IncludeLine} (hline : line ∈ d.includes)
    {name : String} (hname : name ∈ line.names) : family.lookup name = none := by
  obtain ⟨target, htarget, hfamily, rfl⟩ := targets_of_mem_names hd hline hname
  obtain ⟨ty, hty, htarget⟩ := htarget.lookup
  refine (Registry.foreign_of_lookup hty htarget ?_).2
  rw [hfamily]
  intro heq
  exact hself (heq ▸ (exists_targets_of_mem_includes hd hline).1)

/-- A type of another family that some field is about is in exactly one line. -/
theorem exists_filter_eq_of_foreign (hd : r.defineFamily settings family = .ok d)
    (hincludes : family.includes.Nodup) {target : TreeTarget} (htarget : r.Targets family target)
    (hforeign : target.family ≠ family.name) :
    ∃ line, d.includes.filter (target.typeName ∈ ·.names) = [line] ∧
      line.root = settings.generator.moduleRoot ∧ line.family = target.family := by
  obtain ⟨ty, hty, hty'⟩ := htarget.lookup
  obtain ⟨line, hline, hroot, hfamily, hname⟩ := exists_line_of_targets hd htarget
    (Registry.foreign_of_lookup hty hty' hforeign).1
  refine ⟨line, filter_eq_singleton (nodup_includes hd hincludes) hline ?_, hroot, hfamily⟩
  intro b hb
  rw [decide_eq_true_eq]
  exact ⟨fun hnb => eq_of_mem_names hd hb hline hnb hname, fun h => h ▸ hname⟩

/-- A name that a field spells is had from the family that declares its type, and from
no other. -/
theorem binds_iff (hd : r.defineFamily settings family = .ok d)
    (hself : family.name ∉ family.includes) {target : TreeTarget}
    (htarget : r.Targets family target) {g : String} :
    d.Binds target.typeName g ↔ g = target.family := by
  have hnames : d.types.map (·.name) = family.nodeTypes.map (·.name) :=
    map_eq_map_of_forall₂ ((spells_of_defineFamily hd).imp fun _ _ h => h.name)
  have hfamily : d.family = family.name := by
    obtain ⟨nodes, -, rfl⟩ := Registry.defineFamily_eq_ok.mp hd
    rfl
  obtain ⟨ty, hty, hty'⟩ := htarget.lookup
  simp only [FamilyDefinition.Binds, hnames, hfamily]
  constructor
  · rintro (⟨rfl, hown⟩ | ⟨line, hline, rfl, hname⟩)
    · -- a name that the family declares is found in the family itself
      by_contra hforeign
      have hnone := (Registry.foreign_of_lookup hty hty' (Ne.symm hforeign)).2
      exact absurd hown (not_or.mpr (Family.lookup_eq_none.mp hnone))
    · obtain ⟨target', htarget', hline', hname'⟩ := targets_of_mem_names hd hline hname
      rw [← hline', htarget'.eq_of_typeName_eq htarget hname']
  · rintro rfl
    by_cases hown : target.family = family.name
    · refine .inl ⟨hown, ?_⟩
      by_contra hnot
      have hnone := Family.lookup_eq_none.mpr (not_or.mp hnot)
      rw [Registry.own_of_lookup hty hty' hown hself] at hnone
      cases hnone
    · obtain ⟨line, hline, -, hlf, hname⟩ := exists_line_of_targets hd htarget
        (Registry.foreign_of_lookup hty hty' hown).1
      exact .inr ⟨line, hline, hlf, hname⟩

/-- The imported paths, by what needs them. -/
theorem mem_imports_iff (hd : r.defineFamily settings family = .ok d) {path : String} :
    path ∈ d.imports ↔
      ((∃ n ∈ family.nodeTypes, ∃ f ∈ n.fields, f.tree = true ∧
        f.ownership.getD (settings.policyFor family.name) = .shared) ∧ path = "std::rc::Rc") ∨
      ((∃ ty ∈ d.types, ∃ a ∈ ty.accessors, a.checked = true) ∧
        path = settings.generator.moduleRoot ++ "::" ++ nullChildError) ∨
      ∃ v, r.Uses family (.value v) ∧ v.path = some path := by
  obtain ⟨nodes, hnodes, rfl⟩ := Registry.defineFamily_eq_ok.mp hd
  rw [mem_supportImports, exists_shared_iff hnodes, exists_importPath_iff_uses hnodes,
    exists_checked_iff]

end Lines

/-- A family whose fields name a call, which two of its included families declare. -/
def callingFamily : Family :=
  ⟨"Stmt",
    [⟨"Print", [.value "Token" "keyword", .subtree "Expr" "expression"]⟩,
     ⟨"Run", [(FieldSpec.subtree "Call" "call").owned .shared, .subtree "Ty" "ty"]⟩],
    ["Expr", "Ty"]⟩

/-- A registry with the family and those that it includes. -/
def callingRegistry : Registry :=
  Registry.empty.run
    [.valueType "Token" (some "super::Token"),
     .family "Expr" [⟨"Binary", [.subtree "Expr" "left"]⟩, ⟨"Call", []⟩] [],
     .family "Ty" [⟨"Call", []⟩] [],
     .family callingFamily.name callingFamily.nodeTypes callingFamily.includes]

end TreeSmith
