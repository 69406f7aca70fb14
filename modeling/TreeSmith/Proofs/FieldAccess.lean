import TreeSmith.Proofs.ModuleText
import TreeSmith.Proofs.TargetMeaning

/-!
# Reading the fields of a node

What a definition means when it runs, taken from the texts that are emitted.  A
constructor binds its arguments to the parameters by position and fills each slot from
the initializer of the same name; an accessor is found by its name, and the expression
that its body spells is evaluated on the node.  So a field is read through four lists
that only agree because names are unique: parameters, initializers, slots and accessors.

Reading a field gives the argument that the node was built with:

| field | argument | read |
|---|---|---|
| value, values, children | any | a reference to it |
| exclusive child | present | a result with a reference to the child |
| exclusive child | absent | an error that names the node type and the field |
| shared child | present | a reference to the pointer |
| shared child | absent | absent |

## Main definitions

* `TypeText.construct`, `TypeText.reads` — building a node, and reading its fields one
  after the other.
* `FieldSpec.argumentType`, `FieldSpec.handedOut` — what the constructor takes for a field,
  and what reading the field gives.
* `TypeText.Agrees` — constructor and accessors agree on the fields of a node type.

## Main results

* `TypeText.construct_of_names` — every slot is filled with the argument in its place.
* `eval_accessor` — what one accessor hands out.
* `TypeText.reads_of_forall_read` — no read disturbs a later one.
* `agrees_of_defineFamily` — **what a node is built with can be read from it.**
-/

namespace TreeSmith

section Running

variable {α : Type}

/-! ### Building and reading a node -/

/-- Slots filled from bound variables, each from the initializer of its name. -/
def fillSlots (bound : Record α) (initializers : List String) :
    List String → Option (Record α)
  | [] => some []
  | name :: more =>
    if name ∈ initializers then do
      let d ← bound.lookup name
      let rest ← fillSlots bound initializers more
      return (name, d) :: rest
    else none

namespace TypeText

/-- The node that the constructor builds from arguments, one for each parameter; every
initializer must be for a slot. -/
def construct (t : TypeText) (args : List (Datum α)) : Option (Record α) :=
  if args.length = t.params.length ∧ ∀ name ∈ t.initializers, name ∈ t.storage.map (·.name) then
    fillSlots ((t.params.map (·.name)).zip args) t.initializers (t.storage.map (·.name))
  else none

/-- Calls the accessor of a name: what the expression in its body comes to, and the node
after it. -/
def read (t : TypeText) (name : String) (node : Record α) : Option (Datum α × Record α) := do
  let accessor ← t.accessors.find? (·.name == name)
  let body ← Term.ofText? accessor.body
  let outcome ← body.eval node
  return (outcome, node)

/-- Calls accessors one after the other: the outcomes, and the node after all of them. -/
def reads (t : TypeText) : List String → Record α → Option (List (Datum α) × Record α)
  | [], node => some ([], node)
  | name :: names, node => do
    let (outcome, node) ← t.read name node
    let (outcomes, node) ← t.reads names node
    return (outcome :: outcomes, node)

end TypeText

/-- The parameter takes the argument: the argument is of the type that the parameter
spells. -/
def SlotText.Takes (is : TypeExpr → α → Prop) (p : SlotText) (arg : Datum α) : Prop :=
  ∃ type, TypeExpr.ofText? p.type = some type ∧ arg.HasType is type

/-- The type of the argument for a field with a policy, given the type of the subtrees
that it may hold. -/
def FieldSpec.argumentType (f : FieldSpec) (policy : Ownership) (target : TypeExpr) : TypeExpr :=
  match f.tree, f.repeated with
  | false, false => .named f.type
  | false, true => .sequence (.named f.type)
  | true, false => .optional (.pointer policy target)
  | true, true => .sequence (.pointer policy target)

/-- What reading a field gives, by its policy and the argument that the node was built
with. -/
def FieldSpec.handedOut (f : FieldSpec) (nodeType : String) (policy : Ownership)
    (arg : Datum α) : Datum α :=
  if f.tree && !f.repeated then
    match policy, arg with
    | .exclusive, .optional none => .result (.error ⟨nodeType, f.name⟩)
    | .exclusive, .optional (some (.pointer _ child)) => .result (.ok (.reference child))
    | .shared, .optional inner => .optional (inner.map .reference)
    | _, _ => .reference arg
  else .reference arg

/-- A definition of a node type under the policy of a run: its constructor takes an
argument for each field, and whatever the arguments are, the node that they build gives
each of them back through the accessor of its field, however often and in whatever order
the fields are read. -/
structure TypeText.Agrees (t : TypeText) (is : TypeExpr → α → Prop) (policy : Ownership)
    (n : NodeType) : Prop where
  /-- The definition is of the node type. -/
  name : t.name = n.name
  /-- There is a parameter for each field, which spells the type of its argument: a value, a
  sequence, or something or nothing of the pointer of the policy. -/
  params : List.Forall₂ (fun (p : SlotText) (f : FieldSpec) =>
    ∃ target, (target = .named f.type ∨ target = .anyOf f.type) ∧
      TypeExpr.ofText? p.type = some (f.argumentType (f.ownership.getD policy) target))
    t.params n.fields
  /-- What a node is built with can be read from it. -/
  reads : ∀ args : List (Datum α), List.Forall₂ (SlotText.Takes is) t.params args →
    ∃ node, t.construct args = some node ∧
      ∀ visits : List (FieldSpec × Datum α), (∀ v ∈ visits, v ∈ n.fields.zip args) →
        t.reads (visits.map (·.1.name)) node =
          some (visits.map fun v => v.1.handedOut n.name (v.1.ownership.getD policy) v.2, node)
  /-- What an accessor hands out is of the type that it spells. -/
  returns : ∀ args : List (Datum α), List.Forall₂ (SlotText.Takes is) t.params args →
    ∀ v ∈ n.fields.zip args, ∃ a ∈ t.accessors, a.name = v.1.name ∧
      ∃ type, TypeExpr.ofText? a.returnType = some type ∧
        (v.1.handedOut n.name (v.1.ownership.getD policy) v.2).HasType is type

/-! ### Names -/

/-- In a table of different names, a name has the value that stands beside it. -/
theorem lookup_eq_some_of_mem {β : Type} {pairs : List (String × β)}
    (hnodup : (pairs.map (·.1)).Nodup) {name : String} {b : β} (h : (name, b) ∈ pairs) :
    pairs.lookup name = some b := by
  induction pairs with
  | nil => cases h
  | cons pair pairs ih =>
    obtain ⟨other, c⟩ := pair
    rw [List.map_cons, List.nodup_cons] at hnodup
    rcases List.mem_cons.1 h with heq | hmem
    · obtain ⟨rfl, rfl⟩ := Prod.mk.inj heq
      exact List.lookup_cons_self
    · have hne : (name == other) = false := by
        apply beq_eq_false_iff_ne.2
        rintro rfl
        exact hnodup.1 (List.mem_map.2 ⟨_, hmem, rfl⟩)
      rw [List.lookup_cons, hne]
      exact ih hnodup.2 hmem

theorem lookup_zip {names : List String} {args : List (Datum α)} (hnodup : names.Nodup)
    (hlength : args.length = names.length) {name : String} {arg : Datum α}
    (h : (name, arg) ∈ names.zip args) : (names.zip args).lookup name = some arg := by
  have hkeys : (names.zip args).map (·.1) = names := List.map_fst_zip (Nat.le_of_eq hlength.symm)
  exact lookup_eq_some_of_mem (by rwa [hkeys]) h

/-! ### The constructor -/

theorem fillSlots_eq_zip {bound : Record α} {initializers names : List String}
    {args : List (Datum α)} (hlength : args.length = names.length)
    (hbound : ∀ v ∈ names.zip args, v.1 ∈ initializers ∧ bound.lookup v.1 = some v.2) :
    fillSlots bound initializers names = some (names.zip args) := by
  induction names generalizing args with
  | nil => rfl
  | cons name names ih =>
    cases args with
    | nil => cases hlength
    | cons arg args =>
      obtain ⟨hmem, hlookup⟩ := hbound (name, arg) List.mem_cons_self
      have hrest := ih (Nat.succ.inj hlength)
        (fun v hv => hbound v (List.mem_cons_of_mem _ hv))
      rw [fillSlots, if_pos hmem, hrest, hlookup]
      rfl

namespace TypeText

/-- Where parameters, initializers and slots all have the same different names, every slot
is filled with the argument in its place. -/
theorem construct_of_names {t : TypeText} {names : List String}
    (hparams : t.params.map (·.name) = names) (hinitializers : t.initializers = names)
    (hstorage : t.storage.map (·.name) = names) (hnodup : names.Nodup)
    {args : List (Datum α)} (hlength : args.length = names.length) :
    t.construct args = some (names.zip args) := by
  have hcount : args.length = t.params.length := by
    rw [hlength, ← hparams, List.length_map]
  have hslots : ∀ name ∈ t.initializers, name ∈ t.storage.map (·.name) := by
    intro name hname
    rwa [hstorage, ← hinitializers]
  rw [construct, if_pos ⟨hcount, hslots⟩, hparams, hinitializers, hstorage]
  apply fillSlots_eq_zip hlength
  rintro ⟨name, arg⟩ hv
  exact ⟨(List.of_mem_zip hv).1, lookup_zip hnodup hlength hv⟩

/-! ### The accessors -/

/-- Among accessors of different names, one is called by its name, and what its body spells
is evaluated. -/
theorem read_of_mem {t : TypeText} (hnodup : (t.accessors.map (·.name)).Nodup)
    {a : AccessorText} (ha : a ∈ t.accessors) {body : Term}
    (hbody : Term.ofText? a.body = some body) {node : Record α} {d : Datum α}
    (heval : body.eval node = some d) : t.read a.name node = some (d, node) := by
  have hfind : t.accessors.find? (·.name == a.name) = some a := find?_name_eq_some hnodup ha
  rw [read, hfind]
  simp [hbody, heval]

/-- No read disturbs a later one. -/
theorem reads_of_forall_read {t : TypeText} {node : Record α} {γ : Type}
    {name : γ → String} {outcome : γ → Datum α} (visits : List γ)
    (h : ∀ v ∈ visits, t.read (name v) node = some (outcome v, node)) :
    t.reads (visits.map name) node = some (visits.map outcome, node) := by
  induction visits with
  | nil => rfl
  | cons v visits ih =>
    have hrest := ih fun w hw => h w (List.mem_cons_of_mem _ hw)
    rw [List.map_cons, reads, h v List.mem_cons_self]
    simp [hrest]

end TypeText

theorem handedOut_of_not_single {f : FieldSpec} (nodeType : String) (policy : Ownership)
    (arg : Datum α) (h : (f.tree && !f.repeated) = false) :
    f.handedOut nodeType policy arg = .reference arg := by
  unfold FieldSpec.handedOut
  rw [h]
  rfl

section Field

variable {r : Registry} {family : Family} {policy : Ownership} {nodeType : String}
  {f : FieldSpec} {x : ResolvedField}

theorem name_accessor (nodeType : String) (x : ResolvedField) :
    (x.accessor nodeType).name = x.name := by
  unfold ResolvedField.accessor
  split <;> rfl

theorem name_of_resolveField (h : r.resolveField family policy nodeType f = .ok x) :
    x.name = f.name := by
  obtain ⟨ty, -, kind, -, rfl⟩ := Registry.resolveField_eq_ok.1 h
  rfl

/-- The slot of a field is of the type of its argument. -/
theorem storageType_of_resolveField (h : r.resolveField family policy nodeType f = .ok x) :
    ∃ target, (target = .named f.type ∨ target = .anyOf f.type) ∧
      x.storageType = f.argumentType (f.ownership.getD policy) target := by
  obtain ⟨ty, hty, kind, hkind, rfl⟩ := Registry.resolveField_eq_ok.1 h
  obtain ⟨type, name, tree, repeated, ownership⟩ := f
  cases kind with
  | value path =>
    obtain ⟨rfl, -⟩ := Registry.fieldKind_eq_value hkind
    refine ⟨.named type, .inl rfl, ?_⟩
    cases repeated <;> rfl
  | tree owner target =>
    obtain ⟨rfl, htarget, rfl⟩ := Registry.fieldKind_eq_tree hkind
    have hname : target.typeName = type := Registry.typeName_of_lookup hty htarget
    refine ⟨target.type, ?_, ?_⟩
    · cases target with
      | base g => exact .inr (congrArg _ hname)
      | node g n => exact .inl (congrArg _ hname)
    · cases repeated <;> rfl

/-- What the body of an accessor comes to on a node that holds the argument. -/
theorem eval_accessor (hx : r.resolveField family policy nodeType f = .ok x)
    {is : TypeExpr → α → Prop} {arg : Datum α} (harg : arg.HasType is x.storageType)
    {node : Record α} (hnode : node.lookup x.name = some arg) :
    (x.accessor nodeType).body.term.eval node =
      some (f.handedOut nodeType (f.ownership.getD policy) arg) := by
  obtain ⟨ty, -, kind, hkind, rfl⟩ := Registry.resolveField_eq_ok.1 hx
  obtain ⟨type, name, tree, repeated, ownership⟩ := f
  have hslot : (Term.slot name).eval node = some arg := hnode
  -- a slot that is handed out as a whole
  have hborrow : (Term.borrow (.slot name)).eval node = some (.reference arg) := by
    rw [Term.eval, hslot]
    rfl
  cases kind with
  | value path =>
    obtain ⟨rfl, -⟩ := Registry.fieldKind_eq_value hkind
    rw [handedOut_of_not_single _ _ _ rfl]
    cases repeated <;> exact hborrow
  | tree owner target =>
    obtain ⟨rfl, -, howner⟩ := Registry.fieldKind_eq_tree hkind
    rw [← howner]
    cases repeated with
    | true =>
      rw [handedOut_of_not_single _ _ _ rfl]
      cases owner <;> exact hborrow
    | false =>
      obtain ⟨inner, rfl, hinner⟩ := Datum.HasType.exists_optional harg
      cases owner with
      | exclusive =>
        show (((Term.slot name).eval node).bind Datum.asDeref?).bind _ = _
        rw [hslot]
        cases inner with
        | none => rfl
        | some pointer =>
          obtain ⟨child, rfl, -⟩ := (hinner pointer rfl).exists_pointer
          rfl
      | shared =>
        show ((Term.slot name).eval node).bind Datum.asRef? = _
        rw [hslot]
        rfl

/-- What an accessor hands out is of its return type. -/
theorem hasType_handedOut (hx : r.resolveField family policy nodeType f = .ok x)
    {is : TypeExpr → α → Prop} {arg : Datum α} (harg : arg.HasType is x.storageType) :
    (f.handedOut nodeType (f.ownership.getD policy) arg).HasType is
      (x.accessor nodeType).returnType := by
  -- on the node with this slot alone, the typed body comes to what is handed out
  have htyped : (x.accessor nodeType).body.term.HasType
      (fun name => if name = x.name then some x.storageType else none)
      (x.accessor nodeType).returnType := ResolvedField.hasType_accessor nodeType (if_pos rfl)
  have hnode : ∀ name t, (if name = x.name then some x.storageType else none) = some t →
      ∃ d, [(x.name, arg)].lookup name = some d ∧ d.HasType is t := by
    intro name t ht
    by_cases hname : name = x.name
    · rw [if_pos hname] at ht
      obtain rfl := Option.some.inj ht
      exact ⟨arg, by rw [hname, List.lookup_cons_self], harg⟩
    · rw [if_neg hname] at ht
      cases ht
  obtain ⟨d, heval, hd⟩ := htyped.exists_eval hnode
  rw [eval_accessor hx harg List.lookup_cons_self] at heval
  obtain rfl := Option.some.inj heval
  exact hd

end Field

/-! ### Definitions of a registry -/

theorem exists_mem_zip_of_forall₂ {β γ δ : Type} {R : β → γ → Prop} {as : List β} {bs : List γ}
    {cs : List δ} (h : List.Forall₂ R as bs) {a : β} {c : δ} (ha : (a, c) ∈ as.zip cs) :
    ∃ b, (b, c) ∈ bs.zip cs ∧ R a b := by
  induction h generalizing cs with
  | nil => cases ha
  | @cons a' b as bs hab hrest ih =>
    cases cs with
    | nil => cases ha
    | cons c' cs =>
      rcases List.mem_cons.1 ha with heq | hmem
      · obtain ⟨rfl, rfl⟩ := Prod.mk.inj heq
        exact ⟨b, List.mem_cons_self, hab⟩
      · obtain ⟨b', hb', hR⟩ := ih hmem
        exact ⟨b', List.mem_cons_of_mem _ hb', hR⟩

section Resolved

variable {r : Registry} {family : Family} {policy : Ownership} {n : NodeType}
  {fields : List ResolvedField} {is : TypeExpr → α → Prop} {args : List (Datum α)}

theorem map_name_of_resolved {nodeType : String} {specs : List FieldSpec}
    (h : List.Forall₂ (fun f x => r.resolveField family policy nodeType f = .ok x)
      specs fields) : fields.map (·.name) = specs.map (·.name) :=
  map_eq_map_of_forall₂ (h.imp fun _ _ hx => name_of_resolveField hx)

/-- The texts of a definition list the fields under their names. -/
theorem names_texts (nodeType base : String) (fields : List ResolvedField) :
    ((TypeDefinition.of nodeType base fields).texts.params.map (·.name) = fields.map (·.name) ∧
      (TypeDefinition.of nodeType base fields).texts.storage.map (·.name) =
        fields.map (·.name)) ∧
    (TypeDefinition.of nodeType base fields).texts.initializers = fields.map (·.name) ∧
    (TypeDefinition.of nodeType base fields).texts.accessors.map (·.name) =
      fields.map (·.name) := by
  have hslots : ((fields.map (·.slot)).map (·.texts)).map (·.name) = fields.map (·.name) := by
    rw [List.map_map, List.map_map]
    rfl
  refine ⟨⟨hslots, hslots⟩, rfl, ?_⟩
  show ((fields.map (·.accessor nodeType)).map (·.texts)).map (·.name) = _
  rw [List.map_map, List.map_map]
  exact List.map_congr_left fun x _ => name_accessor nodeType x

/-- The field in the place of an argument is resolved to one whose slot takes the
argument. -/
theorem exists_resolved_of_mem_zip (hn : n.Valid)
    (hfields : List.Forall₂ (fun f x => r.resolveField family policy n.name f = .ok x)
      n.fields fields)
    (hargs : List.Forall₂ (SlotText.Takes is) ((fields.map (·.slot)).map (·.texts)) args)
    {f : FieldSpec} {arg : Datum α} (h : (f, arg) ∈ n.fields.zip args) :
    ∃ x, (x, arg) ∈ fields.zip args ∧ r.resolveField family policy n.name f = .ok x ∧
      arg.HasType is x.storageType := by
  obtain ⟨x, hx, hresolve⟩ := exists_mem_zip_of_forall₂ hfields h
  refine ⟨x, hx, hresolve, ?_⟩
  rw [List.map_map, List.forall₂_map_left_iff] at hargs
  obtain ⟨type, htype, harg⟩ := (List.forall₂_iff_zip.1 hargs).2 hx
  -- the type that the slot spells is that of the slot
  have hback : TypeExpr.ofText? x.storageType.text = some x.storageType :=
    (ResolvedField.reads_back hn.name.identifier (hn.fields f (List.of_mem_zip h).1) hresolve).1
  obtain rfl := Option.some.inj (hback.symm.trans htype)
  exact harg

/-- The parameters spell the types of the arguments. -/
theorem argumentTypes_of_resolved (hn : n.Valid)
    (hfields : List.Forall₂ (fun f x => r.resolveField family policy n.name f = .ok x)
      n.fields fields) :
    List.Forall₂ (fun (p : SlotText) (f : FieldSpec) =>
        ∃ target, (target = .named f.type ∨ target = .anyOf f.type) ∧
          TypeExpr.ofText? p.type = some (f.argumentType (f.ownership.getD policy) target))
      ((fields.map (·.slot)).map (·.texts)) n.fields := by
  rw [List.map_map, List.forall₂_map_left_iff]
  apply List.Forall₂.flip
  apply List.forall₂_iff_zip.2
  refine ⟨hfields.length_eq, ?_⟩
  intro f x hmem
  have hresolve := (List.forall₂_iff_zip.1 hfields).2 hmem
  have hf := hn.fields f (List.of_mem_zip hmem).1
  obtain ⟨target, htarget, htype⟩ := storageType_of_resolveField hresolve
  refine ⟨target, htarget, ?_⟩
  rw [← htype]
  exact (ResolvedField.reads_back hn.name.identifier hf hresolve).1

/-- The accessor of the field in the place of an argument hands the argument out. -/
theorem exists_accessor_of_mem_zip (base : String) (hn : n.Valid)
    (hfields : List.Forall₂ (fun f x => r.resolveField family policy n.name f = .ok x)
      n.fields fields)
    (hargs : List.Forall₂ (SlotText.Takes is) ((fields.map (·.slot)).map (·.texts)) args)
    {f : FieldSpec} {arg : Datum α} (h : (f, arg) ∈ n.fields.zip args) :
    ∃ a ∈ (TypeDefinition.of n.name base fields).texts.accessors, a.name = f.name ∧
      (∃ body, Term.ofText? a.body = some body ∧
        body.eval ((fields.map (·.name)).zip args) =
          some (f.handedOut n.name (f.ownership.getD policy) arg)) ∧
      ∃ type, TypeExpr.ofText? a.returnType = some type ∧
        (f.handedOut n.name (f.ownership.getD policy) arg).HasType is type := by
  have hnames : (fields.map (·.name)).Nodup := by
    rw [map_name_of_resolved hfields]
    exact hn.fields_nodup
  have hlength : args.length = (fields.map (·.name)).length := by
    rw [← hargs.length_eq, List.length_map, List.length_map, List.length_map]
  obtain ⟨x, hx, hresolve, harg⟩ := exists_resolved_of_mem_zip hn hfields hargs h
  have hlookup : ((fields.map (·.name)).zip args).lookup x.name = some arg := by
    apply lookup_zip hnames hlength
    rw [List.zip_map_left]
    exact List.mem_map.2 ⟨(x, arg), hx, rfl⟩
  have hmem : (x.accessor n.name).texts ∈
      (TypeDefinition.of n.name base fields).texts.accessors :=
    List.mem_map.2 ⟨_, List.mem_map.2 ⟨x, (List.of_mem_zip hx).1, rfl⟩, rfl⟩
  have hname : (x.accessor n.name).texts.name = f.name := by
    rw [← name_of_resolveField hresolve, ← name_accessor n.name x]
    rfl
  obtain ⟨-, hreturn, hbody⟩ := ResolvedField.reads_back hn.name.identifier
    (hn.fields f (List.of_mem_zip h).1) hresolve
  exact ⟨_, hmem, hname, ⟨_, hbody, eval_accessor hresolve harg hlookup⟩, _, hreturn,
    hasType_handedOut hresolve harg⟩

/-- The definition of a node type whose fields are resolved agrees with it. -/
theorem agrees_of (base : String) (hn : n.Valid)
    (hfields : List.Forall₂ (fun f x => r.resolveField family policy n.name f = .ok x)
      n.fields fields) :
    (TypeDefinition.of n.name base fields).texts.Agrees is policy n := by
  obtain ⟨⟨hparams, hstorage⟩, hinitializers, haccessors⟩ := names_texts n.name base fields
  have hnames : (fields.map (·.name)).Nodup := by
    rw [map_name_of_resolved hfields]
    exact hn.fields_nodup
  refine ⟨rfl, argumentTypes_of_resolved hn hfields, ?_, ?_⟩
  · intro args hargs
    have hlength : args.length = (fields.map (·.name)).length := by
      rw [← hargs.length_eq, ← hparams, List.length_map]
    refine ⟨_, TypeText.construct_of_names hparams hinitializers hstorage hnames hlength, ?_⟩
    intro visits hvisits
    apply TypeText.reads_of_forall_read
    intro v hv
    obtain ⟨a, ha, hname, ⟨body, hbody, heval⟩, -⟩ :=
      exists_accessor_of_mem_zip base hn hfields hargs (hvisits v hv)
    rw [← hname]
    exact TypeText.read_of_mem (by rwa [haccessors]) ha hbody heval
  · intro args hargs v hv
    obtain ⟨a, ha, hname, -, htype⟩ := exists_accessor_of_mem_zip base hn hfields hargs hv
    exact ⟨a, ha, hname, htype⟩

end Resolved

end Running

/-- What is emitted for a registered family are, in order, the definitions of its node types
with their fields resolved. -/
theorem exists_fields_of_defineFamily {r : Registry} (hr : r.Reachable) {family : Family}
    (hfamily : family ∈ r.families) {settings : Settings} {d : FamilyDefinition}
    (hd : r.defineFamily settings family = .ok d) :
    List.Forall₂ (fun (n : NodeType) (t : TypeText) => n.Valid ∧ ∃ fields,
        List.Forall₂ (fun f x => r.resolveField family (settings.policyFor family.name) n.name f
          = .ok x) n.fields fields ∧
        t = (TypeDefinition.of n.name family.name fields).texts)
      family.nodeTypes d.bindings.texts.types := by
  obtain ⟨nodes, hnodes, rfl⟩ := Registry.defineFamily_eq_ok.1 hd
  obtain ⟨hlength, hpairs⟩ := List.forall₂_iff_zip.1 (Registry.resolveNodes_eq_ok.1 hnodes)
  show List.Forall₂ _ family.nodeTypes
    ((nodes.map fun node => TypeDefinition.of node.1 family.name node.2).map (·.texts))
  rw [List.map_map, List.forall₂_map_right_iff]
  apply List.forall₂_iff_zip.2
  refine ⟨hlength, ?_⟩
  intro n node hmem
  obtain ⟨hname, hfields⟩ := hpairs hmem
  refine ⟨(hr.valid.families family hfamily).nodeTypes n (List.of_mem_zip hmem).1, node.2,
    hfields, ?_⟩
  rw [← hname]
  rfl

/-- **What a node is built with can be read from it.**  Whatever the settings, when a
registered family can be defined, the definitions that are emitted pair off with its node
types in order, and each agrees with its node type. -/
theorem agrees_of_defineFamily {r : Registry} (hr : r.Reachable) {family : Family}
    (hfamily : family ∈ r.families) {settings : Settings} {d : FamilyDefinition}
    (hd : r.defineFamily settings family = .ok d) {α : Type} (is : TypeExpr → α → Prop) :
    List.Forall₂ (fun n t => TypeText.Agrees t is (settings.policyFor family.name) n)
      family.nodeTypes d.bindings.texts.types := by
  refine (exists_fields_of_defineFamily hr hfamily hd).imp ?_
  rintro n t ⟨hn, fields, hfields, rfl⟩
  exact agrees_of family.name hn hfields

/-- A family with one node type, which has a field of each kind. -/
def callFamily : Family :=
  ⟨"Expr",
    [⟨"Call", [.value "Token" "paren", .subtree "Expr" "callee",
      (FieldSpec.subtree "Expr" "parent").owned .shared,
      (FieldSpec.subtree "Expr" "arguments").sequence]⟩], []⟩

/-- A registry with the family. -/
def callRegistry : Registry :=
  Registry.empty.run
    [.valueType "Token" none, .family callFamily.name callFamily.nodeTypes callFamily.includes]

/-- A call with one argument, but with neither a callee nor a parent. -/
def orphanCall : List (Datum Nat) :=
  [.atom 0, .optional none, .optional none, .sequence [.pointer .exclusive (.atom 1)]]

/-- Without a callee every read of it fails, and all else can be read. -/
theorem agrees_callFamily :
    callFamily ∈ callRegistry.families ∧
    ∃ d t, callRegistry.defineFamily .default callFamily = .ok d ∧
      d.bindings.texts.types = [t] ∧
      t.accessors.map (·.body) = ["&self.paren",
        "self.callee.as_deref().ok_or_else(|| NullChildError::new(\"Call\", \"callee\"))",
        "self.parent.as_ref()", "&self.arguments"] ∧
      ∃ node, t.construct orphanCall = some node ∧
        t.reads ["callee", "paren", "callee", "parent", "arguments"] node =
          some ([.result (.error ⟨"Call", "callee"⟩), .reference (.atom 0),
            .result (.error ⟨"Call", "callee"⟩), .optional none,
            .reference (.sequence [.pointer .exclusive (.atom 1)])], node) := by
  have hmem : callFamily ∈ callRegistry.families := by decide
  have hdefine : callRegistry.defineFamily .default callFamily = .ok _ := rfl
  have hagrees := agrees_of_defineFamily ⟨_, rfl⟩ hmem hdefine (fun _ (_ : Nat) => True)
  refine ⟨hmem, _, _, hdefine, rfl, by decide, ?_⟩
  cases hagrees with
  | cons hcall _ =>
    obtain ⟨node, hnode, hreads⟩ := hcall.reads orphanCall (by
      refine .cons ⟨.named "Token", rfl, trivial⟩
        (.cons ⟨.optional (.pointer .exclusive (.anyOf "Expr")), rfl, ?_⟩
        (.cons ⟨.optional (.pointer .shared (.anyOf "Expr")), rfl, ?_⟩
        (.cons ⟨.sequence (.pointer .exclusive (.anyOf "Expr")), rfl, ?_⟩ .nil)))
      · intro d hd
        cases hd
      · intro d hd
        cases hd
      · intro d hd
        cases List.mem_singleton.1 hd
        exact ⟨rfl, trivial⟩)
    refine ⟨node, hnode, ?_⟩
    apply hreads [(.subtree "Expr" "callee", .optional none), (.value "Token" "paren", .atom 0),
      (.subtree "Expr" "callee", .optional none),
      ((FieldSpec.subtree "Expr" "parent").owned .shared, .optional none),
      ((FieldSpec.subtree "Expr" "arguments").sequence,
        .sequence [.pointer .exclusive (.atom 1)])]
    simp [orphanCall]

end TreeSmith
