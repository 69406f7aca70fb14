import TreeSmith.Generator
import TreeSmith.Proofs.Imports

/-!
# Registries that grow

A family goes to the end of its registry, and so does a value type of a new name.  What
a family sees does not reach past the families that it includes, and these stood before
it.  So nothing that is registered later changes what its type names mean, how it is
defined or what is written for it.  A value type of a new name is looked for last: it may
give a meaning to a type name that had none, and changes no other.

## Main definitions

* `Registry.Grown` — everything of a registry is still in its place.
* `Generator.Keeps` — a generator does with a family what another one did.

## Main results

* `Registry.Grown.lookup_eq_some` — what was found is found again.
* `Registry.Grown.lookup_eq` — with the same value types, all names mean what they did.
* `Registry.defineFamily_congr` — a family is defined field by field.
* `Generator.keeps_of_reachable` — **later registrations change nothing that was
  settled.**
-/

namespace TreeSmith

/-- The call asks for a family. -/
def Registration.isFamily : Registration → Bool
  | .family _ _ _ => true
  | .valueType _ _ => false

namespace Registry

/-! ### Growing -/

/-- Everything of the first registry is in its place in the second. -/
structure Grown (r r' : Registry) : Prop where
  /-- The value types are in their places. -/
  valueTypes : r.valueTypes <+: r'.valueTypes
  /-- The families are in their places. -/
  families : r.families <+: r'.families

theorem Grown.refl (r : Registry) : r.Grown r :=
  ⟨List.prefix_rfl, List.prefix_rfl⟩

theorem Grown.trans {r s t : Registry} (h : r.Grown s) (h' : s.Grown t) : r.Grown t :=
  ⟨h.valueTypes.trans h'.valueTypes, h.families.trans h'.families⟩

/-- Asking for a family leaves everything in its place, and adds no value type. -/
theorem grown_after_family (r : Registry) {c : Registration} (hc : c.isFamily = true) :
    r.Grown (r.after c) ∧ (r.after c).valueTypes = r.valueTypes := by
  unfold after
  split
  · next r' h =>
    cases c with
    | valueType name path => cases hc
    | family name nodeTypes includes =>
      obtain ⟨-, -, -, -, rfl⟩ := define_eq_ok.mp h
      exact ⟨⟨List.prefix_rfl, List.prefix_append _ _⟩, rfl⟩
  · exact ⟨.refl r, rfl⟩

/-- Asking for a value type of a new name leaves everything in its place. -/
theorem grown_after_valueType {r : Registry} {name : String}
    (hname : name ∉ r.valueTypes.map (·.name)) (path : Option String) :
    r.Grown (r.after (.valueType name path)) := by
  unfold after
  split
  · next r' h =>
    obtain ⟨-, rfl⟩ := registerValueType_eq_ok.mp h
    refine ⟨?_, List.prefix_rfl⟩
    rw [putValueType_of_notMem hname]
    exact List.prefix_append _ _
  · exact .refl r

/-- So does asking for any number of families. -/
theorem grown_run (r : Registry) {calls : List Registration}
    (hcalls : ∀ c ∈ calls, c.isFamily = true) :
    r.Grown (r.run calls) ∧ (r.run calls).valueTypes = r.valueTypes := by
  induction calls generalizing r with
  | nil => exact ⟨.refl r, rfl⟩
  | cons c calls ih =>
    obtain ⟨hgrown, hvalues⟩ := r.grown_after_family (hcalls c List.mem_cons_self)
    obtain ⟨hgrown', hvalues'⟩ := ih (r.after c) fun d hd => hcalls d (List.mem_cons_of_mem _ hd)
    exact ⟨hgrown.trans hgrown', hvalues'.trans hvalues⟩

/-! ### Names -/

theorem Valid.family?_of_mem {r : Registry} (hr : r.Valid) {f : Family} (hf : f ∈ r.families) :
    r.family? f.name = some f :=
  find?_name_eq_some hr.families_nodup hf

/-- The families that a registered family includes are there. -/
theorem Valid.isSome_family?_of_mem_includes {r : Registry} (hr : r.Valid) {f : Family}
    (hf : f ∈ r.families) : ∀ g ∈ f.includes, (r.family? g).isSome := by
  intro g hg
  obtain ⟨i, hi⟩ := List.mem_iff_getElem?.mp hf
  obtain ⟨j, -, e, he, rfl⟩ := hr.includes_earlier i f hi g hg
  rw [hr.family?_of_mem (List.mem_of_getElem? he)]
  rfl

section Names

variable {r r' : Registry}

theorem Grown.family?_eq_some (h : r.Grown r') {name : String} {f : Family}
    (hf : r.family? name = some f) : r'.family? name = some f :=
  h.families.find?_eq_some hf

theorem Grown.valueType?_eq_some (h : r.Grown r') {name : String} {v : ValueType}
    (hv : r.valueType? name = some v) : r'.valueType? name = some v :=
  h.valueTypes.find?_eq_some hv

/-- An included family is the one that it was. -/
theorem Grown.family?_eq (h : r.Grown r') (hr : r.Valid) {f : Family} (hf : f ∈ r.families) :
    ∀ g ∈ f.includes, r'.family? g = r.family? g := by
  intro g hg
  obtain ⟨e, he⟩ := Option.isSome_iff_exists.mp (hr.isSome_family?_of_mem_includes hf g hg)
  rw [he, h.family?_eq_some he]

theorem lookupIncluded_congr {includes : List String}
    (h : ∀ g ∈ includes, r'.family? g = r.family? g) (name : String) :
    r'.lookupIncluded name includes = r.lookupIncluded name includes := by
  induction includes with
  | nil => rfl
  | cons g more ih =>
    rw [lookupIncluded, lookupIncluded, h g List.mem_cons_self,
      ih fun e he => h e (List.mem_cons_of_mem _ he)]

/-- What was found is found again. -/
theorem Grown.lookup_eq_some (h : r.Grown r') (hr : r.Valid) {f : Family}
    (hf : f ∈ r.families) {name : String} {ty : TypeRef} (hty : r.lookup f name = some ty) :
    r'.lookup f name = some ty := by
  rw [lookup, Option.or_eq_some_iff] at hty ⊢
  rw [lookupIncluded_congr (h.family?_eq hr hf)]
  rcases hty with hdeclared | ⟨hnone, hvalue⟩
  · exact .inl hdeclared
  · -- value types are asked last, and a new one stands behind all that were there
    obtain ⟨v, hv, rfl⟩ := Option.map_eq_some_iff.mp hvalue
    refine .inr ⟨hnone, ?_⟩
    rw [h.valueType?_eq_some hv]
    rfl

/-- With the same value types, every name means what it meant. -/
theorem Grown.lookup_eq (h : r.Grown r') (hr : r.Valid) (hvalues : r'.valueTypes = r.valueTypes)
    {f : Family} (hf : f ∈ r.families) (name : String) : r'.lookup f name = r.lookup f name := by
  rw [lookup, lookup, lookupIncluded_congr (h.family?_eq hr hf), valueType?, valueType?, hvalues]

/-- With the same value types, the same names are offered in place of an unknown one. -/
theorem Grown.suggest_eq (h : r.Grown r') (hr : r.Valid) (hvalues : r'.valueTypes = r.valueTypes)
    {f : Family} (hf : f ∈ r.families) (name : String) : r'.suggest f name = r.suggest f name := by
  have hscopes : r'.scopes f = r.scopes f := by
    rw [scopes, scopes, List.filterMap_congr (h.family?_eq hr hf)]
  have hvisible : r'.visibleNames f = r.visibleNames f := by
    rw [visibleNames, visibleNames, visible, visible, hscopes, hvalues]
  rw [suggest, suggest, hvisible]

/-! ### Definitions -/

variable {family : Family} {policy : Ownership}

/-- How a field is resolved depends on what its type name means, and on what is offered
in its place when it means nothing. -/
theorem resolveField_congr {f : FieldSpec}
    (hlookup : r'.lookup family f.type = r.lookup family f.type)
    (hsuggest : r.lookup family f.type = none → r'.suggest family f.type = r.suggest family f.type)
    (nodeType : String) :
    r'.resolveField family policy nodeType f = r.resolveField family policy nodeType f := by
  rw [resolveField, resolveField, hlookup]
  cases hty : r.lookup family f.type with
  | none => simp only [hsuggest hty]
  | some ty => rfl

theorem resolveFields_congr {nodeType : String} {fields : List FieldSpec}
    (h : ∀ f ∈ fields, r'.resolveField family policy nodeType f =
      r.resolveField family policy nodeType f) :
    r'.resolveFields family policy nodeType fields =
      r.resolveFields family policy nodeType fields := by
  induction fields with
  | nil => rfl
  | cons f more ih =>
    rw [resolveFields, resolveFields, h f List.mem_cons_self,
      ih fun g hg => h g (List.mem_cons_of_mem _ hg)]

theorem resolveNodes_congr {nodeTypes : List NodeType}
    (h : ∀ n ∈ nodeTypes, ∀ f ∈ n.fields, r'.resolveField family policy n.name f =
      r.resolveField family policy n.name f) :
    r'.resolveNodes family policy nodeTypes = r.resolveNodes family policy nodeTypes := by
  induction nodeTypes with
  | nil => rfl
  | cons n more ih =>
    rw [resolveNodes, resolveNodes, resolve, resolve, resolveFields_congr (h n List.mem_cons_self),
      ih fun m hm => h m (List.mem_cons_of_mem _ hm)]

/-- A family is defined field by field: registries that resolve its fields alike define
it alike. -/
theorem defineFamily_congr {settings : Settings}
    (h : ∀ n ∈ family.nodeTypes, ∀ f ∈ n.fields,
      r'.resolveField family (settings.policyFor family.name) n.name f =
        r.resolveField family (settings.policyFor family.name) n.name f) :
    r'.defineFamily settings family = r.defineFamily settings family := by
  rw [defineFamily, defineFamily, resolveNodes_congr h]

end Names

end Registry

namespace Generator

open Registry

/-- The second generator does with a family what the first one did. -/
structure Keeps (g g' : Generator) (f : Family) : Prop where
  /-- The family is found under its name. -/
  family? : g'.registry.family? f.name = some f
  /-- Every type name means in it what it meant. -/
  lookup : ∀ name, g'.registry.lookup f name = g.registry.lookup f name
  /-- It is defined as before, or fails as before. -/
  define : g'.define f = g.define f
  /-- What is written for it is the same. -/
  artifact : g'.artifact f = g.artifact f

variable {g g' : Generator} {artifacts : List Artifact}

theorem artifact_congr {f : Family} (hdefine : g'.define f = g.define f)
    (hbinding : g'.binding = g.binding) : g'.artifact f = g.artifact f := by
  rw [Generator.artifact, Generator.artifact, hdefine, hbinding]

theorem artifacts_congr {families : List Family}
    (h : ∀ f ∈ families, g'.artifact f = g.artifact f) :
    g'.artifacts families = g.artifacts families := by
  induction families with
  | nil => rfl
  | cons f more ih =>
    rw [Generator.artifacts, Generator.artifacts, h f List.mem_cons_self,
      ih fun e he => h e (List.mem_cons_of_mem _ he)]

/-- The artifacts of the first families are the first artifacts. -/
theorem exists_prefix_of_artifacts_append {families more : List Family}
    (h : g.artifacts (families ++ more) = .ok artifacts) :
    ∃ earlier, g.artifacts families = .ok earlier ∧ earlier <+: artifacts := by
  induction families generalizing artifacts with
  | nil => exact ⟨[], rfl, List.nil_prefix⟩
  | cons f families ih =>
    rw [List.cons_append, Generator.artifacts, bind_eq_ok] at h
    obtain ⟨first, hfirst, h⟩ := h
    obtain ⟨rest, hrest, h⟩ := bind_eq_ok.mp h
    obtain rfl := Except.ok.inj h
    obtain ⟨earlier, hearlier, hprefix⟩ := ih hrest
    refine ⟨first :: earlier, ?_, List.cons_prefix_cons.mpr ⟨rfl, hprefix⟩⟩
    rw [Generator.artifacts, hfirst, hearlier]
    rfl

/-- A grown registry with the same value types keeps its families. -/
theorem keeps_of_grown {r' : Registry} (hr : g.registry.Valid) (h : g.registry.Grown r')
    (hvalues : r'.valueTypes = g.registry.valueTypes) {f : Family}
    (hf : f ∈ g.registry.families) : Keeps g { g with registry := r' } f := by
  have hdefine : Generator.define { g with registry := r' } f = g.define f := by
    have hfields : r'.defineFamily g.settings f = g.registry.defineFamily g.settings f :=
      defineFamily_congr fun n _ field _ =>
        resolveField_congr (h.lookup_eq hr hvalues hf field.type)
          (fun _ => h.suggest_eq hr hvalues hf field.type) n.name
    rw [Generator.define, Generator.define, hfields]
  exact ⟨h.family?_eq_some (hr.family?_of_mem hf), h.lookup_eq hr hvalues hf, hdefine,
    artifact_congr hdefine rfl⟩

/-- In a grown registry, a family that could be defined is defined as before. -/
theorem define_eq_ok_of_grown {r' : Registry} (hr : g.registry.Valid) (h : g.registry.Grown r')
    {f : Family} (hf : f ∈ g.registry.families) {d : FamilyDefinition}
    (hd : g.define f = .ok d) : Generator.define { g with registry := r' } f = .ok d := by
  have hdefined : g.registry.defineFamily g.settings f = .ok d := mapError_eq_ok.mp hd
  obtain ⟨nodes, hnodes, -⟩ := defineFamily_eq_ok.mp hdefined
  -- every field was resolved, so each of its type names had a meaning and keeps it
  have hfields : r'.defineFamily g.settings f = g.registry.defineFamily g.settings f := by
    refine defineFamily_congr fun n hn field hfield => ?_
    obtain ⟨ty, hty, -⟩ := exists_mem_resolvedFields hnodes hn hfield
    have hlookup : r'.lookup f field.type = g.registry.lookup f field.type := by
      rw [hty, h.lookup_eq_some hr hf hty]
    refine resolveField_congr hlookup (fun hnone => ?_) n.name
    rw [hty] at hnone
    cases hnone
  rw [Generator.define, hfields, hdefined]
  rfl

/-- **Later registrations change nothing that was settled.**  With any renderer, and after
any calls for families, accepted or refused, every family that was registered keeps the
meaning of all its type names, its definition or fault and its artifact; when all artifacts
of the longer registry can be generated, those of the shorter one can, and come first.  After
a call for a value type of a new name, what a family found it still finds, and a family that
could be defined has the same definition. -/
theorem keeps_of_reachable (hr : g.registry.Reachable) :
    (∀ calls : List Registration, (∀ c ∈ calls, c.isFamily = true) →
      (∀ f ∈ g.registry.families, Keeps g { g with registry := g.registry.run calls } f) ∧
      ∀ artifacts, generate { g with registry := g.registry.run calls } = .ok artifacts →
        ∃ earlier, g.generate = .ok earlier ∧ earlier <+: artifacts) ∧
    ∀ (name : String) (path : Option String), name ∉ g.registry.valueTypes.map (·.name) →
      ∀ f ∈ g.registry.families,
        (∀ type found, g.registry.lookup f type = some found →
          (g.registry.after (.valueType name path)).lookup f type = some found) ∧
        ∀ d, g.define f = .ok d →
          Generator.define { g with registry := g.registry.after (.valueType name path) } f =
            .ok d := by
  refine ⟨fun calls hcalls => ?_, fun name path hname f hf => ?_⟩
  · obtain ⟨hgrown, hvalues⟩ := g.registry.grown_run hcalls
    have hkeeps := fun f hf => keeps_of_grown (f := f) hr.valid hgrown hvalues hf
    refine ⟨hkeeps, fun artifacts hartifacts => ?_⟩
    obtain ⟨more, hmore⟩ := hgrown.families
    rw [generate, show Registry.families (g.registry.run calls) = _ from hmore.symm] at hartifacts
    obtain ⟨earlier, hearlier, hprefix⟩ := exists_prefix_of_artifacts_append hartifacts
    refine ⟨earlier, ?_, hprefix⟩
    rw [generate, ← artifacts_congr fun f hf => (hkeeps f hf).artifact]
    exact hearlier
  · have hgrown := grown_after_valueType hname path
    exact ⟨fun type found => hgrown.lookup_eq_some hr.valid hf,
      fun d => define_eq_ok_of_grown hr.valid hgrown hf⟩

/-- A family with one node type. -/
def unaryFamily : Family :=
  ⟨"Expr", [⟨"Unary", [.value "Token" "op", .subtree "Expr" "right"]⟩], []⟩

/-- A generator of the family alone, with a short template. -/
def unaryGenerator : Generator :=
  ⟨Registry.empty.run
    [.valueType "Token" none, .family unaryFamily.name unaryFamily.nodeTypes unaryFamily.includes],
    .default, .ofTemplate "mod \x7b\x7b base_name \x7d\x7d;"⟩

/-- Calls for a family that has a node type `Token` of its own, and for one whose name is
taken. -/
def laterCalls : List Registration :=
  [.family "Stmt" [⟨"Token", []⟩, ⟨"Print", [.subtree "Expr" "value"]⟩] ["Expr"],
    .family "Expr" [] []]

/-- The family is kept, its artifact comes first, and a value type `Frame` leaves its
definition alone. -/
theorem keeps_unaryFamily :
    unaryFamily ∈ unaryGenerator.registry.families ∧
    (∀ c ∈ laterCalls, c.isFamily = true) ∧
    "Frame" ∉ unaryGenerator.registry.valueTypes.map (·.name) ∧
    Keeps unaryGenerator
      { unaryGenerator with registry := unaryGenerator.registry.run laterCalls } unaryFamily ∧
    (∃ earlier, unaryGenerator.generate = .ok earlier ∧
      earlier <+: [⟨"Expr", "mod Expr;"⟩, ⟨"Stmt", "mod Stmt;"⟩]) ∧
    ∃ d, unaryGenerator.define unaryFamily = .ok d ∧
      Generator.define { unaryGenerator with
        registry := unaryGenerator.registry.after (.valueType "Frame" (some "super::Frame")) }
        unaryFamily = .ok d := by
  have hmem : unaryFamily ∈ unaryGenerator.registry.families := by decide
  have hcalls : ∀ c ∈ laterCalls, c.isFamily = true := by decide
  have hname : "Frame" ∉ unaryGenerator.registry.valueTypes.map (·.name) := by decide
  have hgenerate : generate
      { unaryGenerator with registry := unaryGenerator.registry.run laterCalls } =
      .ok [⟨"Expr", "mod Expr;"⟩, ⟨"Stmt", "mod Stmt;"⟩] := by decide +kernel
  have hdefine : unaryGenerator.define unaryFamily = .ok _ := rfl
  obtain ⟨hfamilies, hvalues⟩ := keeps_of_reachable (g := unaryGenerator) ⟨_, rfl⟩
  obtain ⟨hkeeps, hprefix⟩ := hfamilies laterCalls hcalls
  exact ⟨hmem, hcalls, hname, hkeeps unaryFamily hmem, hprefix _ hgenerate, _, hdefine,
    (hvalues "Frame" (some "super::Frame") hname unaryFamily hmem).2 _ hdefine⟩

end Generator

end TreeSmith
