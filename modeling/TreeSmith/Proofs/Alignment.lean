import TreeSmith.Proofs.FieldAccess

/-!
# Definitions follow the declaration

The definition of a node type is emitted as four lists: the parameters of the constructor,
its initializers, the slots and the accessors.  Each has an entry for each field, in the
order of declaration and under the name of the field.  A parameter spells the type of its
slot, and the expression that the body of an accessor spells has, given the types of the
slots, the type that the accessor returns:

| slot | body | type |
|---|---|---|
| `T` | `&self.f` | `&T` |
| `Vec<T>` | `&self.f` | `&Vec<T>`, which serves as `&[T]` |
| `Option<P<T>>` | `self.f.as_deref().ok_or_else(..)` | `Result<&T, NullChildError>` |
| `Option<T>` | `self.f.as_ref()` | `Option<&T>` |

What a slot holds, what an accessor does and whether it is checked are decided in three
places; the theorem says that they never disagree.

## Main definitions

* `TypeText.slotType?` — the type that the slot of a name spells.
* `TypeText.Aligned` — what is emitted follows the declaration of a node type.

## Main results

* `slotType?_texts` — the slot of a field spells its type.
* `isChecked_iff`, `isChecked_iff_result` — which accessors are checked, and how they show it.
* `aligned_of_defineFamily` — **definitions follow the declaration.**
-/

namespace TreeSmith

/-- The type that the slot of a name spells. -/
def TypeText.slotType? (t : TypeText) (name : String) : Option TypeExpr :=
  (t.storage.find? (·.name == name)).bind fun slot => TypeExpr.ofText? slot.type

/-- What is emitted follows the declaration of a node type, under the policy of the run. -/
structure TypeText.Aligned (t : TypeText) (n : NodeType) (policy : Ownership) : Prop where
  /-- The definition is of the node type. -/
  name : t.name = n.name
  /-- There is a parameter for each field, in order and under its name. -/
  params : t.params.map (·.name) = n.fields.map (·.name)
  /-- There is an initializer for each field, in order and under its name. -/
  initializers : t.initializers = n.fields.map (·.name)
  /-- There is a slot for each field, in order and under its name. -/
  storage : t.storage.map (·.name) = n.fields.map (·.name)
  /-- There is an accessor for each field, in order and under its name. -/
  accessors : t.accessors.map (·.name) = n.fields.map (·.name)
  /-- A parameter is of the type of its slot. -/
  types : t.params.map (·.type) = t.storage.map (·.type)
  /-- The body of an accessor spells an expression that starts from the slot of its name and
  has the type that the accessor spells. -/
  bodies : ∀ a ∈ t.accessors, ∃ body type, Term.ofText? a.body = some body ∧
    body.root = a.name ∧ TypeExpr.ofText? a.returnType = some type ∧
    body.HasType t.slotType? type
  /-- A body borrows the field, or hands out its child or an error that names the node type
  and the field, or hands out what is in it; checked are those that may give the error. -/
  forms : ∀ a ∈ t.accessors,
    if a.checked then
      a.body = "self." ++ a.name ++ ".as_deref().ok_or_else(|| NullChildError::new(\"" ++ t.name ++
        "\", \"" ++ a.name ++ "\"))"
    else a.body = "&self." ++ a.name ∨ a.body = "self." ++ a.name ++ ".as_ref()"
  /-- Checked are the accessors of single subtrees with one owner. -/
  checked : ∀ (i : Nat) (f : FieldSpec) (a : AccessorText), n.fields[i]? = some f →
    t.accessors[i]? = some a →
      (a.checked = true ↔
        f.tree = true ∧ f.repeated = false ∧ f.ownership.getD policy = .exclusive)
  /-- Checked are the accessors that return a result with the error of an absent child. -/
  results : ∀ a ∈ t.accessors, (a.checked = true ↔
    ∃ value, a.returnType = "Result<" ++ value ++ ", NullChildError>")

/-! ### One field -/

section Field

variable {nodeType : String} {x : ResolvedField}

/-- Checked are single subtrees with one owner. -/
theorem isChecked_iff {r : Registry} {family : Family} {policy : Ownership} {f : FieldSpec}
    (hx : r.resolveField family policy nodeType f = .ok x) :
    x.isChecked = true ↔
      f.tree = true ∧ f.repeated = false ∧ f.ownership.getD policy = .exclusive := by
  obtain ⟨ty, -, kind, hkind, rfl⟩ := Registry.resolveField_eq_ok.mp hx
  unfold ResolvedField.isChecked ResolvedField.policy?
  cases kind with
  | value path =>
    rw [(Registry.fieldKind_eq_value hkind).1]
    simp
  | tree owner target =>
    obtain ⟨htree, -, howner⟩ := Registry.fieldKind_eq_tree hkind
    rw [htree, ← howner]
    simp

/-- A return type is spelled with an `R` in front just when the accessor is checked. -/
theorem head?_text_returnType (nodeType : String) (x : ResolvedField) :
    (x.accessor nodeType).returnType.text.toList.head? = some 'R' ↔ x.isChecked = true := by
  obtain ⟨name, typeName, repeated, kind⟩ := x
  unfold ResolvedField.isChecked ResolvedField.policy? ResolvedField.accessor
  cases kind with
  | value path => cases repeated <;> simp [TypeExpr.text]
  | tree owner target => cases owner <;> cases repeated <;> simp [TypeExpr.text]

/-- Of the return types, that of a checked accessor is spelled as a result, and no other. -/
theorem isChecked_iff_result (nodeType : String) (x : ResolvedField) :
    x.isChecked = true ↔ ∃ value,
      (x.accessor nodeType).returnType.text = "Result<" ++ value ++ ", NullChildError>" := by
  constructor
  · intro h
    obtain ⟨name, typeName, repeated, kind⟩ := x
    cases kind with
    | value path => simp [ResolvedField.isChecked, ResolvedField.policy?] at h
    | tree owner target =>
      simp only [ResolvedField.isChecked, ResolvedField.policy?, Bool.and_eq_true,
        Bool.not_eq_true', beq_iff_eq, Option.some.injEq] at h
      obtain ⟨rfl, rfl⟩ := h
      refine ⟨(TypeExpr.reference target.type).text, ?_⟩
      simp only [ResolvedField.accessor, TypeExpr.text, nullChildError, String.append_assoc]
      rfl
  · rintro ⟨value, h⟩
    rw [← head?_text_returnType nodeType, h]
    simp

/-- The body of an accessor as it is spelled. -/
theorem form_accessor (nodeType : String) (x : ResolvedField) :
    if x.isChecked then
      (x.accessor nodeType).body.text = "self." ++ x.name ++
        ".as_deref().ok_or_else(|| NullChildError::new(\"" ++ nodeType ++ "\", \"" ++ x.name ++
        "\"))"
    else (x.accessor nodeType).body.text = "&self." ++ x.name ∨
      (x.accessor nodeType).body.text = "self." ++ x.name ++ ".as_ref()" := by
  obtain ⟨name, typeName, repeated, kind⟩ := x
  cases kind with
  | value path => cases repeated <;> exact .inl rfl
  | tree owner target =>
    cases repeated with
    | true => cases owner <;> exact .inl rfl
    | false =>
      cases owner with
      | exclusive =>
        show "self." ++ name ++ ".as_deref().ok_or_else(|| " ++ "NullChildError" ++ "::new(\"" ++
          nodeType ++ "\", \"" ++ name ++ "\"))" = _
        simp only [String.append_assoc]
        rfl
      | shared => exact .inr rfl

end Field

/-! ### The definitions of a family -/

section Resolved

variable {r : Registry} {family : Family} {policy : Ownership} {n : NodeType}
  {fields : List ResolvedField}

/-- The slot of a field spells its type. -/
theorem slotType?_texts (base : String) (hn : n.Valid)
    (hfields : List.Forall₂ (fun f x => r.resolveField family policy n.name f = .ok x)
      n.fields fields) {x : ResolvedField} (hx : x ∈ fields) :
    (TypeDefinition.of n.name base fields).texts.slotType? x.name = some x.storageType := by
  obtain ⟨⟨-, hstorage⟩, -, -⟩ := names_texts n.name base fields
  have hnodup : ((TypeDefinition.of n.name base fields).texts.storage.map (·.name)).Nodup := by
    rw [hstorage, map_name_of_resolved hfields]
    exact hn.fields_nodup
  have hmem : x.slot.texts ∈ (TypeDefinition.of n.name base fields).texts.storage :=
    List.mem_map.mpr ⟨_, List.mem_map.mpr ⟨x, hx, rfl⟩, rfl⟩
  have hfind : (TypeDefinition.of n.name base fields).texts.storage.find? (·.name == x.name) =
      some x.slot.texts := find?_name_eq_some hnodup hmem
  obtain ⟨f, hf, hresolve⟩ := exists_left_of_forall₂ hfields x hx
  rw [TypeText.slotType?, hfind]
  exact (ResolvedField.reads_back hn.name.identifier (hn.fields f hf) hresolve).1

/-- What is emitted for a node type whose fields are resolved follows its declaration. -/
theorem aligned_of (base : String) (hn : n.Valid)
    (hfields : List.Forall₂ (fun f x => r.resolveField family policy n.name f = .ok x)
      n.fields fields) : (TypeDefinition.of n.name base fields).texts.Aligned n policy := by
  obtain ⟨⟨hparams, hstorage⟩, hinitializers, haccessors⟩ := names_texts n.name base fields
  have hnames : fields.map (·.name) = n.fields.map (·.name) := map_name_of_resolved hfields
  rw [hnames] at hparams hstorage hinitializers haccessors
  -- every emitted accessor is that of a resolved field
  have hmem : ∀ a ∈ (TypeDefinition.of n.name base fields).texts.accessors,
      ∃ x ∈ fields, a = (x.accessor n.name).texts := by
    intro a ha
    obtain ⟨accessor, haccessor, rfl⟩ := List.mem_map.mp ha
    obtain ⟨x, hx, rfl⟩ := List.mem_map.mp haccessor
    exact ⟨x, hx, rfl⟩
  refine ⟨rfl, hparams, hinitializers, hstorage, haccessors, rfl, ?_, ?_, ?_, ?_⟩
  · intro a ha
    obtain ⟨x, hx, rfl⟩ := hmem a ha
    obtain ⟨f, hf, hresolve⟩ := exists_left_of_forall₂ hfields x hx
    obtain ⟨-, hreturn, hbody⟩ :=
      ResolvedField.reads_back hn.name.identifier (hn.fields f hf) hresolve
    refine ⟨_, _, hbody, ?_, hreturn,
      ResolvedField.hasType_accessor n.name (slotType?_texts base hn hfields hx)⟩
    show _ = (x.accessor n.name).name
    rw [ResolvedField.root_accessor, name_accessor]
  · intro a ha
    obtain ⟨x, hx, rfl⟩ := hmem a ha
    have hform := form_accessor n.name x
    rw [← ResolvedField.checked_accessor n.name, ← name_accessor n.name x] at hform
    exact hform
  · intro i f a hf ha
    obtain ⟨x, hx, hresolve⟩ := exists_getElem?_of_forall₂ hfields hf
    have ha' : ((fields.map (·.accessor n.name)).map (·.texts))[i]? = some a := ha
    rw [List.map_map, List.getElem?_map, hx] at ha'
    obtain rfl := Option.some.inj ha'
    show (x.accessor n.name).checked = true ↔ _
    rw [ResolvedField.checked_accessor]
    exact isChecked_iff hresolve
  · intro a ha
    obtain ⟨x, hx, rfl⟩ := hmem a ha
    show (x.accessor n.name).checked = true ↔ _
    rw [ResolvedField.checked_accessor]
    exact isChecked_iff_result n.name x

end Resolved

/-- **Definitions follow the declaration.**  Whatever the settings, when a registered family
can be defined, the definitions that are emitted pair off with its node types in order, and
each follows the declaration of its node type. -/
theorem aligned_of_defineFamily {r : Registry} (hr : r.Reachable) {family : Family}
    (hfamily : family ∈ r.families) {settings : Settings} {d : FamilyDefinition}
    (hd : r.defineFamily settings family = .ok d) :
    List.Forall₂ (fun n t => TypeText.Aligned t n (settings.policyFor family.name))
      family.nodeTypes d.bindings.texts.types := by
  refine (exists_fields_of_defineFamily hr hfamily hd).imp ?_
  rintro n t ⟨hn, fields, hfields, rfl⟩
  exact aligned_of family.name hn hfields

/-- A node type with a field of each kind. -/
def classNode : NodeType :=
  ⟨"Class", [.value "Token" "name", (FieldSpec.value "Token" "params").sequence,
    .subtree "Stmt" "body", (FieldSpec.subtree "Class" "superclass").owned .shared,
    (FieldSpec.subtree "Stmt" "statements").sequence,
    (FieldSpec.subtree "Class" "nested").sequence.owned .shared]⟩

/-- A family of this node type and of one without fields. -/
def classFamily : Family :=
  ⟨"Stmt", [classNode, ⟨"Nil", []⟩], []⟩

/-- A registry with the family. -/
def classRegistry : Registry :=
  Registry.empty.run
    [.valueType "Token" none, .family classFamily.name classFamily.nodeTypes classFamily.includes]

/-- Of its accessors only that of the single child with one owner is checked. -/
theorem aligned_classFamily :
    classFamily ∈ classRegistry.families ∧
    ∃ d t u, classRegistry.defineFamily .default classFamily = .ok d ∧
      d.bindings.texts.types = [t, u] ∧ t.Aligned classNode .exclusive ∧
      u.Aligned ⟨"Nil", []⟩ .exclusive ∧
      t.accessors.map (fun a => (a.name, a.returnType, a.checked)) =
        [("name", "&Token", false), ("params", "&[Token]", false),
          ("body", "Result<&dyn Stmt, NullChildError>", true),
          ("superclass", "Option<&Rc<Class>>", false),
          ("statements", "&[Box<dyn Stmt>]", false), ("nested", "&[Rc<Class>]", false)] := by
  have hmem : classFamily ∈ classRegistry.families := by decide
  have hdefine : classRegistry.defineFamily .default classFamily = .ok _ := rfl
  have haligned := aligned_of_defineFamily ⟨_, rfl⟩ hmem hdefine
  refine ⟨hmem, _, _, _, hdefine, rfl, ?_⟩
  cases haligned with
  | cons hclass hrest =>
    cases hrest with
    | cons hnil _ => exact ⟨hclass, hnil, by decide⟩

end TreeSmith
