import TreeSmith.Generator
import TreeSmith.Proofs.Imports
import TreeSmith.Proofs.ModuleText

/-!
# What the policy of a run decides

The policy of a run is the ownership of the subtrees that declare none, and it is nothing
else.  What can be wrong with a field is said here without a policy, and a field fails
under any policy with just this fault; so do node types, families and whole passes, which
stop at the first fault from left to right.  Where two policies both succeed, they give the
same fields up to the ownership that they decide.

## Main definitions

* `FirstFault` — the fault of the first item that has one.
* `Registry.FieldFault`, `Registry.NodeFault`, `Registry.FamilyFault` — what is wrong with a
  field, a node type and a family under every policy.
* `FieldSpec.ResolvedAlike` — one field under two policies.

## Main results

* `Registry.resolveField_eq_error_iff` — a field fails with its own fault, under any policy.
* `Registry.defineFamily_eq_error_iff` — so does a family, under any settings.
* `Generator.policies_differ_in_ownership_only` — **two policies fail alike, and succeed with
  fields that differ in their ownership only.**
-/

namespace TreeSmith

/-! ### The first fault of a list -/

/-- The fault is that of the first item that has one. -/
def FirstFault {α ε : Type} (Fault : α → ε → Prop) (items : List α) (fault : ε) : Prop :=
  ∃ before a after, items = before ++ a :: after ∧ (∀ b ∈ before, ∀ e, ¬ Fault b e) ∧
    Fault a fault

section FirstFault

variable {α β γ ε : Type} {Fault : α → ε → Prop} {a : α} {more : List α} {fault : ε}

theorem not_firstFault_nil : ¬ FirstFault Fault [] fault := by
  rintro ⟨before, a, after, hitems, -⟩
  simp at hitems

theorem firstFault_cons :
    FirstFault Fault (a :: more) fault ↔
      Fault a fault ∨ (∀ e, ¬ Fault a e) ∧ FirstFault Fault more fault := by
  constructor
  · rintro ⟨before, b, after, hitems, hbefore, hb⟩
    cases before with
    | nil =>
      obtain ⟨rfl, -⟩ := List.cons.inj hitems
      exact .inl hb
    | cons c before =>
      obtain ⟨rfl, rfl⟩ := List.cons.inj hitems
      refine .inr ⟨hbefore a List.mem_cons_self, before, b, after, rfl, fun d hd => ?_, hb⟩
      exact hbefore d (List.mem_cons_of_mem a hd)
  · rintro (ha | ⟨ha, before, b, after, rfl, hbefore, hb⟩)
    · exact ⟨[], a, more, rfl, fun b hb => absurd hb List.not_mem_nil, ha⟩
    · refine ⟨a :: before, b, after, rfl, fun c hc => ?_, hb⟩
      rcases List.mem_cons.mp hc with rfl | hc
      · exact ha
      · exact hbefore c hc

/-- A step with what comes of its result fails like the step. -/
theorem bind_ok_eq_error_iff {x : Except ε α} {f : α → β} :
    (x >>= fun a => .ok (f a)) = .error fault ↔ x = .error fault := by
  cases x with
  | error e => simp
  | ok a => simp

/-- A step and the steps after it fail like the step, or else like the steps after it. -/
theorem step_eq_error_iff {x : Except ε α} {rest : Except ε β} {f : α → β → γ} :
    (do let a ← x; let b ← rest; return f a b) = .error fault ↔
      x = .error fault ∨ (∀ e, x ≠ .error e) ∧ rest = .error fault := by
  cases x with
  | error e => simp
  | ok a =>
    rw [ok_bind]
    refine Iff.trans (bind_ok_eq_error_iff (f := f a)) ?_
    simp

end FirstFault

namespace Registry

variable {r : Registry} {family : Family} {policy : Ownership} {nodeType : String}
  {f : FieldSpec} {fault : SchemaFault}

/-! ### What is wrong under every policy -/

/-- What is wrong with a field of a node type. -/
inductive FieldFault (r : Registry) (family : Family) (nodeType : String) (f : FieldSpec) :
    SchemaFault → Prop
  /-- Its type name has no meaning. -/
  | unknown (hty : r.lookup family f.type = none) :
      FieldFault r family nodeType f
        (.unknownFieldType nodeType f.name f.type (r.suggest family f.type))
  /-- A plain value is marked as a subtree. -/
  | valueAsSubtree {v : ValueType} (hty : r.lookup family f.type = some (.value v))
      (htree : f.tree = true) :
      FieldFault r family nodeType f
        (.invalidTreeReference nodeType f.name (.valueAsSubtree v.name))
  /-- A plain value declares an ownership. -/
  | ownedValue {v : ValueType} (hty : r.lookup family f.type = some (.value v))
      (htree : f.tree = false) (howned : f.ownership ≠ none) :
      FieldFault r family nodeType f (.invalidTreeReference nodeType f.name (.ownedValue v.name))
  /-- A subtree is not marked as one. -/
  | unmarkedSubtree {ty : TypeRef} {target : TreeTarget} (hty : r.lookup family f.type = some ty)
      (htarget : ty.target? = some target) (htree : f.tree = false) :
      FieldFault r family nodeType f
        (.invalidTreeReference nodeType f.name (.unmarkedSubtree f.type))

/-- What is wrong with a node type: the fault of its first field that has one. -/
def NodeFault (r : Registry) (family : Family) (n : NodeType) : SchemaFault → Prop :=
  FirstFault (r.FieldFault family n.name) n.fields

/-- What is wrong with a family: the fault of its first node type that has one. -/
def FamilyFault (r : Registry) (family : Family) : SchemaFault → Prop :=
  FirstFault (r.NodeFault family) family.nodeTypes

theorem fieldFault_of_fieldKind {ty : TypeRef} (hty : r.lookup family f.type = some ty)
    (h : fieldKind nodeType f policy ty = .error fault) : r.FieldFault family nodeType f fault := by
  cases htree : f.tree with
  | true =>
    -- a marked field fits everything but a plain value
    cases ty with
    | value v =>
      simp only [fieldKind, htree, if_pos, Except.error.injEq] at h
      exact h ▸ .valueAsSubtree hty htree
    | base g => simp [fieldKind, htree] at h
    | node g n => simp [fieldKind, htree] at h
  | false =>
    -- a field that is not marked fits a plain value alone, and only without an owner
    cases ty with
    | value v =>
      simp only [fieldKind, htree, Bool.false_eq_true, if_false] at h
      split at h
      · next howned =>
        obtain rfl := Except.error.inj h
        exact .ownedValue hty htree (Option.isSome_iff_ne_none.mp howned)
      · cases h
    | base g =>
      simp only [fieldKind, htree, Bool.false_eq_true, if_false, Except.error.injEq] at h
      exact h ▸ .unmarkedSubtree hty rfl htree
    | node g n =>
      simp only [fieldKind, htree, Bool.false_eq_true, if_false, Except.error.injEq] at h
      exact h ▸ .unmarkedSubtree hty rfl htree

/-- **A field fails with its own fault**, whatever the policy is. -/
theorem resolveField_eq_error_iff :
    r.resolveField family policy nodeType f = .error fault ↔
      r.FieldFault family nodeType f fault := by
  constructor
  · intro h
    unfold resolveField at h
    split at h
    · next hty =>
      cases h
      exact .unknown hty
    · next ty hty => exact fieldFault_of_fieldKind hty (bind_ok_eq_error_iff.mp h)
  · intro h
    unfold resolveField
    cases h with
    | unknown hty => simp [hty]
    | valueAsSubtree hty htree => simp [hty, fieldKind, htree]
    | ownedValue hty htree howned =>
      simp [hty, fieldKind, htree, Option.isSome_iff_ne_none.mpr howned]
    | @unmarkedSubtree ty _ hty htarget htree =>
      cases ty with
      | value v => cases htarget
      | base g => simp [hty, fieldKind, htree]
      | node g n => simp [hty, fieldKind, htree]

theorem resolveFields_eq_error_iff {fields : List FieldSpec} :
    r.resolveFields family policy nodeType fields = .error fault ↔
      FirstFault (r.FieldFault family nodeType) fields fault := by
  induction fields with
  | nil => simp [resolveFields, not_firstFault_nil]
  | cons f more ih =>
    rw [resolveFields, step_eq_error_iff, firstFault_cons, ih]
    simp only [ne_eq, resolveField_eq_error_iff]

theorem resolve_eq_error_iff {n : NodeType} :
    r.resolve family policy n = .error fault ↔ r.NodeFault family n fault :=
  resolveFields_eq_error_iff

theorem resolveNodes_eq_error_iff {nodeTypes : List NodeType} :
    r.resolveNodes family policy nodeTypes = .error fault ↔
      FirstFault (r.NodeFault family) nodeTypes fault := by
  induction nodeTypes with
  | nil => simp [resolveNodes, not_firstFault_nil]
  | cons n more ih =>
    rw [resolveNodes, step_eq_error_iff, firstFault_cons, ih]
    simp only [ne_eq, resolve_eq_error_iff]

/-- **A family fails with its own fault**, whatever the settings are. -/
theorem defineFamily_eq_error_iff {settings : Settings} :
    r.defineFamily settings family = .error fault ↔ r.FamilyFault family fault :=
  bind_ok_eq_error_iff.trans resolveNodes_eq_error_iff

end Registry

/-! ### One field under two policies -/

/-- The subtree that a resolved field holds, if it holds one. -/
def ResolvedField.target? (x : ResolvedField) : Option TreeTarget :=
  match x.kind with
  | .tree _ target => some target
  | .value _ => none

/-- A field as it is resolved under two policies. -/
structure FieldSpec.ResolvedAlike (f : FieldSpec) (p q : Ownership) (x y : ResolvedField) :
    Prop where
  /-- The names are the same. -/
  name : y.name = x.name
  /-- The types are spelled alike. -/
  typeName : y.typeName = x.typeName
  /-- Both hold a sequence, or neither does. -/
  repeated : y.repeated = x.repeated
  /-- Plain values have the same import. -/
  importPath : y.importPath? = x.importPath?
  /-- Subtrees have the same target. -/
  target : y.target? = x.target?
  /-- The first is owned as the field declares, or else by the first policy. -/
  left : x.policy? = if f.tree then some (f.ownership.getD p) else none
  /-- The second is owned as the field declares, or else by the second policy. -/
  right : y.policy? = if f.tree then some (f.ownership.getD q) else none
  /-- They are owned alike, but for subtrees that declare no ownership. -/
  policy : y.policy? ≠ x.policy? → f.tree = true ∧ f.ownership = none

namespace Registry

variable {r : Registry} {family : Family} {p q : Ownership} {nodeType : String} {f : FieldSpec}

theorem resolvedAlike_of_fieldKind {ty : TypeRef} {kind kind' : FieldKind}
    (h : fieldKind nodeType f p ty = .ok kind) (h' : fieldKind nodeType f q ty = .ok kind') :
    f.ResolvedAlike p q ⟨f.name, f.type, f.repeated, kind⟩ ⟨f.name, f.type, f.repeated, kind'⟩ := by
  cases kind with
  | value path =>
    obtain ⟨hplain, v, rfl, rfl⟩ := fieldKind_eq_value h
    cases kind' with
    | value path' =>
      obtain ⟨-, w, hw, rfl⟩ := fieldKind_eq_value h'
      obtain rfl := TypeRef.value.inj hw
      refine ⟨rfl, rfl, rfl, rfl, rfl, ?_, ?_, fun hne => absurd rfl hne⟩
      · simp [ResolvedField.policy?, hplain]
      · simp [ResolvedField.policy?, hplain]
    | tree owner target => exact absurd (fieldKind_eq_tree h').1 (by simp [hplain])
  | tree owner target =>
    obtain ⟨htree, htarget, rfl⟩ := fieldKind_eq_tree h
    cases kind' with
    | value path => exact absurd (fieldKind_eq_value h').1 (by simp [htree])
    | tree owner' target' =>
      obtain ⟨-, htarget', rfl⟩ := fieldKind_eq_tree h'
      obtain rfl := Option.some.inj (htarget.symm.trans htarget')
      refine ⟨rfl, rfl, rfl, rfl, rfl, ?_, ?_, fun hne => ⟨htree, ?_⟩⟩
      · simp [ResolvedField.policy?, htree]
      · simp [ResolvedField.policy?, htree]
      · -- a declared ownership is the same under both policies
        cases howned : f.ownership with
        | none => rfl
        | some owner => simp [ResolvedField.policy?, howned] at hne

theorem resolvedAlike_of_resolveField {x y : ResolvedField}
    (hx : r.resolveField family p nodeType f = .ok x)
    (hy : r.resolveField family q nodeType f = .ok y) : f.ResolvedAlike p q x y := by
  obtain ⟨ty, hty, kind, hkind, rfl⟩ := resolveField_eq_ok.mp hx
  obtain ⟨ty', hty', kind', hkind', rfl⟩ := resolveField_eq_ok.mp hy
  obtain rfl := Option.some.inj (hty.symm.trans hty')
  exact resolvedAlike_of_fieldKind hkind hkind'

/-- Node types that can be resolved under a policy can be resolved under every other one,
field by field alike. -/
theorem resolve_of_resolve {n : NodeType} {xs : List ResolvedField}
    (hxs : r.resolve family p n = .ok xs) (q : Ownership) :
    ∃ ys, r.resolve family q n = .ok ys ∧
      xs.length = n.fields.length ∧ ys.length = n.fields.length ∧
      ∀ (i : Nat) (f : FieldSpec) (x y : ResolvedField), n.fields[i]? = some f →
        xs[i]? = some x → ys[i]? = some y → f.ResolvedAlike p q x y := by
  cases hys : r.resolve family q n with
  | error fault =>
    -- the fault would be there under the first policy, too
    rw [resolve_eq_error_iff.mpr (resolve_eq_error_iff.mp hys)] at hxs
    cases hxs
  | ok ys =>
    have hleft := resolveFields_eq_ok.mp hxs
    have hright := resolveFields_eq_ok.mp hys
    refine ⟨ys, rfl, hleft.length_eq.symm, hright.length_eq.symm, fun i f x y hf hx hy => ?_⟩
    obtain ⟨x', hx', hresolved⟩ := exists_getElem?_of_forall₂ hleft hf
    obtain ⟨y', hy', hresolved'⟩ := exists_getElem?_of_forall₂ hright hf
    obtain rfl := Option.some.inj (hx.symm.trans hx')
    obtain rfl := Option.some.inj (hy.symm.trans hy')
    exact resolvedAlike_of_resolveField hresolved hresolved'

end Registry

/-! ### Whole passes -/

namespace Generator

open Registry

variable {g : Generator} {fault : GeneratorFault}

theorem define_eq_error_iff {family : Family} :
    g.define family = .error fault ↔
      ∃ e, fault = .schema e ∧ g.registry.FamilyFault family e := by
  have hfault : ∀ e, g.registry.defineFamily g.settings family = .error e ↔
      g.registry.FamilyFault family e := fun e => defineFamily_eq_error_iff
  simp only [Generator.define, ← hfault]
  cases g.registry.defineFamily g.settings family with
  | error e => simp [Except.mapError, eq_comm]
  | ok d => simp [Except.mapError]

/-- The built-in template writes every definition, so that only the definition can fail. -/
theorem artifact_eq_error_iff (hbinding : g.binding = .ofTemplate moduleTemplate)
    {family : Family} : g.artifact family = .error fault ↔ g.define family = .error fault := by
  rw [Generator.artifact, hbinding]
  cases g.define family with
  | error e => simp
  | ok d =>
    have hrender : templateRenderer moduleTemplate d.bindings = .ok d.bindings.texts.print := by
      rw [templateRenderer, ← d.bindings.frame_texts, ModuleText.render_eq]
      rfl
    rw [ok_bind, RenderBinding.filled_ofTemplate, hrender, ok_bind]
    simp [pure, Except.pure]

/-- A pass with the built-in template stops at the first family with a fault. -/
theorem artifacts_eq_error_iff (hbinding : g.binding = .ofTemplate moduleTemplate)
    {families : List Family} : g.artifacts families = .error fault ↔
      FirstFault (fun family fault => ∃ e, fault = .schema e ∧ g.registry.FamilyFault family e)
        families fault := by
  induction families with
  | nil => simp [Generator.artifacts, not_firstFault_nil]
  | cons family more ih =>
    rw [Generator.artifacts, step_eq_error_iff, firstFault_cons, ih]
    simp only [ne_eq, artifact_eq_error_iff hbinding, define_eq_error_iff]

/-- **Two policies differ in ownership only.**  A node type, registered or not, fails under
any policy with the fault of its first field that has one; when it can be resolved, two
policies give fields that agree place by place in all but the ownership of subtrees that
declare none.  Hence the definition of a family, and a pass with the built-in template, fail
alike under any two settings. -/
theorem policies_differ_in_ownership_only (r : Registry) (family : Family) :
    (∀ (n : NodeType) (p q : Ownership),
      (∀ fault, r.resolve family p n = .error fault ↔
        FirstFault (r.FieldFault family n.name) n.fields fault) ∧
      (∀ fault, r.resolve family p n = .error fault ↔ r.resolve family q n = .error fault) ∧
      ∀ xs, r.resolve family p n = .ok xs → ∃ ys, r.resolve family q n = .ok ys ∧
        xs.length = n.fields.length ∧ ys.length = n.fields.length ∧
        ∀ (i : Nat) (f : FieldSpec) (x y : ResolvedField), n.fields[i]? = some f →
          xs[i]? = some x → ys[i]? = some y → f.ResolvedAlike p q x y) ∧
    (∀ (s s' : Settings) (binding binding' : RenderBinding) (fault : GeneratorFault),
      Generator.define ⟨r, s, binding⟩ family = .error fault ↔
        Generator.define ⟨r, s', binding'⟩ family = .error fault) ∧
    ∀ (s s' : Settings) (fault : GeneratorFault),
      generate ⟨r, s, .ofTemplate moduleTemplate⟩ = .error fault ↔
        generate ⟨r, s', .ofTemplate moduleTemplate⟩ = .error fault := by
  refine ⟨fun n p q => ⟨fun fault => resolve_eq_error_iff, fun fault => ?_, fun xs hxs => ?_⟩,
    fun s s' binding binding' fault => ?_, fun s s' fault => ?_⟩
  · rw [resolve_eq_error_iff, resolve_eq_error_iff]
  · exact resolve_of_resolve hxs q
  · rw [define_eq_error_iff, define_eq_error_iff]
  · rw [generate, generate, artifacts_eq_error_iff rfl, artifacts_eq_error_iff rfl]

/-- A node type that no family has, with a plain value, a subtree with an owner and subtrees
without one. -/
def spawnNode : NodeType :=
  ⟨"Spawn", [.value "Token" "keyword", (FieldSpec.subtree "Call" "call").owned .shared,
    (FieldSpec.subtree "Expr" "arguments").sequence]⟩

/-- A node type with two faults: a plain value as a subtree, and a type without a meaning. -/
def castNode : NodeType :=
  ⟨"Cast", [.value "Token" "keyword", .subtree "Token" "type", .value "Typ" "name"]⟩

/-- Only the subtrees without an owner follow the policy, and the first of two faults is
reported under both. -/
theorem policies_differ_in_ownership_only_spawnNode :
    (∃ xs ys, callingRegistry.resolve callingFamily .exclusive spawnNode = .ok xs ∧
      callingRegistry.resolve callingFamily .shared spawnNode = .ok ys ∧
      xs.map (·.policy?) = [none, some .shared, some .exclusive] ∧
      ys.map (·.policy?) = [none, some .shared, some .shared] ∧
      ∃ x y, xs[2]? = some x ∧ ys[2]? = some y ∧
        (FieldSpec.subtree "Expr" "arguments").sequence.ResolvedAlike .exclusive .shared x y) ∧
    FirstFault (callingRegistry.FieldFault callingFamily castNode.name) castNode.fields
      (.invalidTreeReference "Cast" "type" (.valueAsSubtree "Token")) ∧
    callingRegistry.resolve callingFamily .shared castNode =
      .error (.invalidTreeReference "Cast" "type" (.valueAsSubtree "Token")) := by
  obtain ⟨hresolve, -, -⟩ := policies_differ_in_ownership_only callingRegistry callingFamily
  have hxs : callingRegistry.resolve callingFamily .exclusive spawnNode = .ok _ := rfl
  have hcast : callingRegistry.resolve callingFamily .exclusive castNode =
    .error (.invalidTreeReference "Cast" "type" (.valueAsSubtree "Token")) := rfl
  obtain ⟨ys, hys, -, -, halike⟩ := (hresolve spawnNode .exclusive .shared).2.2 _ hxs
  obtain ⟨hfirst, hsame, -⟩ := hresolve castNode .exclusive .shared
  obtain rfl := Except.ok.inj (hys.symm.trans rfl)
  refine ⟨⟨_, _, hxs, hys, rfl, rfl, _, _, rfl, rfl, halike 2 _ _ _ rfl rfl rfl⟩, ?_, ?_⟩
  · exact (hfirst _).mp hcast
  · exact (hsame _).mp hcast

end Generator

end TreeSmith
