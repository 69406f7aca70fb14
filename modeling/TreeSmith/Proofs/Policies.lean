import TreeSmith.CommandLine.Generate
import TreeSmith.Proofs.Encoding
import TreeSmith.Proofs.FieldAccess

/-!
# Which policy a subtree gets

Five places can say how a subtree is owned.  The field itself comes first, then the
settings under the exact name of the family, then the settings under a name that
differs from it in the case of letters — the first such name in the order of bytes —
then the command line, and last the policy of the run.  The policy that comes of this is
the one whose pointer stands in the constructor, in the slot and in the accessor; only
the accessor of a single child with one owner names no pointer, because it hands out what
the pointer points to.

## Main definitions

* `EffectivePolicy` — the policy of a field, by the five places.
* `TypeExpr.pointers` — the pointers that a type names.
* `TypeDefinition.EmitsChild` — how a subtree with a policy stands in a definition.
* `Settings.AgreesFor` — settings that say the same about a family.

## Main results

* `KeysGrow.find?_eq_some` — the first entry that fits is the one with the least key.
* `effectivePolicy_iff` — every field has exactly one policy, and it is the resolved one.
* `Generator.policies_cascade` — **the policy of a subtree is the one it is emitted with.**
* `Generator.not_forall_accessor_box` — not every child with one owner is handed out in
  its pointer.
-/

namespace TreeSmith

/-! ### The entries of settings -/

theorem Text.toLower_eq_iff {s t : String} :
    s.toLower = t.toLower ↔ s.toList.map Char.toLower = t.toList.map Char.toLower := by
  rw [← String.toList_inj]
  show (s.map Char.toLower).toList = (t.map Char.toLower).toList ↔ _
  rw [String.toList_map, String.toList_map]

/-- In the order of their keys, the first entry that fits is the one with the least key. -/
theorem KeysGrow.find?_eq_some {entries : List (String × Ownership)} (h : KeysGrow entries)
    (fits : String → Bool) {e : String × Ownership} :
    entries.find? (fun entry => fits entry.1) = some e ↔
      e ∈ entries ∧ fits e.1 = true ∧ ∀ e' ∈ entries, fits e'.1 = true → ¬ e'.1 < e.1 := by
  induction entries with
  | nil => simp
  | cons entry more ih =>
    obtain ⟨hentry, hmore⟩ := List.pairwise_cons.mp h
    cases hfits : fits entry.1 with
    | true =>
      -- the first entry fits, and all others have greater keys
      rw [List.find?_cons_of_pos (by exact hfits), Option.some.injEq]
      constructor
      · rintro rfl
        refine ⟨List.mem_cons_self, hfits, fun e' he' _ => ?_⟩
        rcases List.mem_cons.mp he' with rfl | he'
        · exact String.lt_irrefl _
        · exact String.lt_asymm (hentry e' he')
      · rintro ⟨he, -, hleast⟩
        rcases List.mem_cons.mp he with rfl | he
        · rfl
        · exact absurd (hentry e he) (hleast entry List.mem_cons_self hfits)
    | false =>
      -- the first entry plays no part on either side
      rw [List.find?_cons_of_neg (by simp [hfits]), ih hmore]
      have hother : ∀ e' : String × Ownership, fits e'.1 = true → e' ≠ entry := by
        rintro e' he' rfl
        simp [hfits] at he'
      constructor
      · rintro ⟨he, hfit, hleast⟩
        refine ⟨List.mem_cons_of_mem entry he, hfit, fun e' he' hfit' => ?_⟩
        exact hleast e' (List.mem_of_ne_of_mem (hother e' hfit') he') hfit'
      · rintro ⟨he, hfit, hleast⟩
        exact ⟨List.mem_of_ne_of_mem (hother e hfit) he, hfit,
          fun e' he' => hleast e' (List.mem_cons_of_mem entry he')⟩

namespace FamilyPolicies

variable {p : FamilyPolicies} {family : String} {policy : Ownership}

theorem atKey?_eq_some : p.atKey? family = some policy ↔ (family, policy) ∈ p.entries := by
  rw [atKey?, Option.map_eq_some_iff]
  constructor
  · rintro ⟨e, he, rfl⟩
    obtain ⟨hmem, hkey, -⟩ := (p.sorted.find?_eq_some (· == family)).mp he
    rwa [← beq_iff_eq.mp hkey]
  · intro hmem
    refine ⟨(family, policy), (p.sorted.find?_eq_some (· == family)).mpr ?_, rfl⟩
    refine ⟨hmem, beq_self_eq_true family, fun e' _ hkey => ?_⟩
    rw [beq_iff_eq.mp hkey]
    exact String.lt_irrefl family

theorem atKey?_eq_none :
    p.atKey? family = none ↔ ∀ policy, (family, policy) ∉ p.entries := by
  rw [Option.eq_none_iff_forall_ne_some]
  exact forall_congr' fun policy => not_congr atKey?_eq_some

/-- Of the keys that differ from a name at most in case, the least one counts. -/
theorem likeKey?_eq_some :
    p.likeKey? family = some policy ↔
      ∃ key, (key, policy) ∈ p.entries ∧ key.toLower = family.toLower ∧
        ∀ e ∈ p.entries, e.1.toLower = family.toLower → ¬ e.1 < key := by
  have hlike : ∀ key, Text.sameIgnoringCase key family = true ↔ key.toLower = family.toLower :=
    fun key => beq_iff_eq
  rw [likeKey?, Option.map_eq_some_iff]
  constructor
  · rintro ⟨⟨key, policy⟩, he, rfl⟩
    obtain ⟨hmem, hkey, hleast⟩ :=
      (p.sorted.find?_eq_some (Text.sameIgnoringCase · family)).mp he
    exact ⟨key, hmem, (hlike key).mp hkey, fun e' he' hkey' => hleast e' he' ((hlike e'.1).mpr hkey')⟩
  · rintro ⟨key, hmem, hkey, hleast⟩
    refine ⟨(key, policy), (p.sorted.find?_eq_some (Text.sameIgnoringCase · family)).mpr ?_, rfl⟩
    exact ⟨hmem, (hlike key).mpr hkey, fun e' he' hkey' => hleast e' he' ((hlike e'.1).mp hkey')⟩

theorem likeKey?_eq_none :
    p.likeKey? family = none ↔ ∀ e ∈ p.entries, e.1.toLower ≠ family.toLower := by
  rw [likeKey?, Option.map_eq_none_iff, List.find?_eq_none]
  simp only [Text.sameIgnoringCase, beq_iff_eq, ne_eq]

end FamilyPolicies

/-! ### The five places -/

/-- The settings under the policy that a command line asks for, if it asks for one. -/
def Settings.asking (s : Settings) (asked : Option Ownership) : Settings :=
  asked.elim s s.withPolicy

/-- The policy of a field that holds a subtree, in a family of the given name. -/
inductive EffectivePolicy (s : Settings) (asked : Option Ownership) (family : String)
    (f : FieldSpec) : Ownership → Prop
  /-- The field declares it. -/
  | declared {p : Ownership} (hfield : f.ownership = some p) : EffectivePolicy s asked family f p
  /-- The settings have it under the name of the family. -/
  | named {p : Ownership} (hfield : f.ownership = none)
      (hentry : (family, p) ∈ s.families.entries) : EffectivePolicy s asked family f p
  /-- The settings have no such entry, but this one under a name that differs only in the
  case of letters, and none under such a name with smaller bytes. -/
  | likeNamed {p : Ownership} {key : String} (hfield : f.ownership = none)
      (hnamed : ∀ q, (family, q) ∉ s.families.entries)
      (hentry : (key, p) ∈ s.families.entries) (hlike : key.toLower = family.toLower)
      (hleast : ∀ e ∈ s.families.entries, e.1.toLower = family.toLower →
        ¬ e.1.toUTF8.toList < key.toUTF8.toList) :
      EffectivePolicy s asked family f p
  /-- The settings have no entry for the family, and the command line asks for it. -/
  | asked {p : Ownership} (hfield : f.ownership = none)
      (hnone : ∀ e ∈ s.families.entries, e.1.toLower ≠ family.toLower) (hasked : asked = some p) :
      EffectivePolicy s asked family f p
  /-- Nothing else says anything, and it is the policy of the run. -/
  | general (hfield : f.ownership = none)
      (hnone : ∀ e ∈ s.families.entries, e.1.toLower ≠ family.toLower) (hasked : asked = none) :
      EffectivePolicy s asked family f s.generator.policy

section Cascade

variable {s : Settings} {asked : Option Ownership} {family : String} {f : FieldSpec}

theorem Settings.policyFor_asking (s : Settings) (asked : Option Ownership) (family : String) :
    (s.asking asked).policyFor family =
      ((s.families.atKey? family).or (s.families.likeKey? family)).getD
        (asked.getD s.generator.policy) := by
  cases asked <;> rfl

/-- Without entries under a name that differs at most in case, there is none under the name
itself. -/
theorem atKey?_eq_none_of_likeKey?_eq_none {p : FamilyPolicies} (h : p.likeKey? family = none) :
    p.atKey? family = none :=
  FamilyPolicies.atKey?_eq_none.mpr fun q hq =>
    FamilyPolicies.likeKey?_eq_none.mp h (family, q) hq rfl

/-- The resolved policy comes from one of the five places. -/
theorem effectivePolicy_resolved :
    EffectivePolicy s asked family f (f.ownership.getD ((s.asking asked).policyFor family)) := by
  cases hfield : f.ownership with
  | some p => exact .declared hfield
  | none =>
    rw [Option.getD_none, Settings.policyFor_asking]
    cases hat : s.families.atKey? family with
    | some p => exact .named hfield (FamilyPolicies.atKey?_eq_some.mp hat)
    | none =>
      rw [Option.none_or]
      cases hlike : s.families.likeKey? family with
      | some p =>
        obtain ⟨key, hentry, hkey, hleast⟩ := FamilyPolicies.likeKey?_eq_some.mp hlike
        exact .likeNamed hfield (FamilyPolicies.atKey?_eq_none.mp hat) hentry hkey
          fun e he hsame => Text.toUTF8_lt_iff.not.mpr (hleast e he hsame)
      | none =>
        have hnone := FamilyPolicies.likeKey?_eq_none.mp hlike
        cases asked with
        | some p => exact .asked hfield hnone rfl
        | none => exact .general hfield hnone rfl

/-- A policy that comes from one of the five places is the resolved one. -/
theorem EffectivePolicy.eq_resolved {p : Ownership} (h : EffectivePolicy s asked family f p) :
    p = f.ownership.getD ((s.asking asked).policyFor family) := by
  rw [Settings.policyFor_asking]
  -- each place speaks only when the places before it are silent
  cases h with
  | declared hfield => rw [hfield, Option.getD_some]
  | named hfield hentry =>
    rw [hfield, FamilyPolicies.atKey?_eq_some.mpr hentry]
    rfl
  | likeNamed hfield hnamed hentry hlike hleast =>
    have hfound := FamilyPolicies.likeKey?_eq_some.mpr
      ⟨_, hentry, hlike, fun e he hsame => Text.toUTF8_lt_iff.not.mp (hleast e he hsame)⟩
    rw [hfield, FamilyPolicies.atKey?_eq_none.mpr hnamed, hfound]
    rfl
  | asked hfield hnone hasked =>
    have hlike := FamilyPolicies.likeKey?_eq_none.mpr hnone
    rw [hfield, atKey?_eq_none_of_likeKey?_eq_none hlike, hlike, hasked]
    rfl
  | general hfield hnone hasked =>
    have hlike := FamilyPolicies.likeKey?_eq_none.mpr hnone
    rw [hfield, atKey?_eq_none_of_likeKey?_eq_none hlike, hlike, hasked]
    rfl

/-- **Every field has exactly one policy**, the resolved one. -/
theorem effectivePolicy_iff {p : Ownership} :
    EffectivePolicy s asked family f p ↔
      p = f.ownership.getD ((s.asking asked).policyFor family) := by
  constructor
  · exact EffectivePolicy.eq_resolved
  · rintro rfl
    exact effectivePolicy_resolved

end Cascade

/-! ### Settings about other families -/

/-- The settings say the same about a family: they differ at most in entries whose names
are not its own even up to the case of letters. -/
structure Settings.AgreesFor (s s' : Settings) (family : String) : Prop where
  /-- All other settings are the same. -/
  generator : s'.generator = s.generator
  /-- The entries for the family are the same. -/
  entries : ∀ e : String × Ownership, e.1.toLower = family.toLower →
    (e ∈ s'.families.entries ↔ e ∈ s.families.entries)

/-- Both look-ups depend on the entries for the family alone. -/
theorem Settings.AgreesFor.policyFor_asking_eq {s s' : Settings} {family : String}
    (h : s.AgreesFor s' family) (asked : Option Ownership) :
    (s'.asking asked).policyFor family = (s.asking asked).policyFor family := by
  have hat : s'.families.atKey? family = s.families.atKey? family := by
    refine Option.ext fun p => ?_
    rw [FamilyPolicies.atKey?_eq_some, FamilyPolicies.atKey?_eq_some, h.entries _ rfl]
  have hlike : s'.families.likeKey? family = s.families.likeKey? family := by
    refine Option.ext fun p => ?_
    rw [FamilyPolicies.likeKey?_eq_some, FamilyPolicies.likeKey?_eq_some]
    refine exists_congr fun key => ?_
    constructor
    · rintro ⟨hentry, hkey, hleast⟩
      exact ⟨(h.entries _ hkey).mp hentry, hkey,
        fun e he hsame => hleast e ((h.entries e hsame).mpr he) hsame⟩
    · rintro ⟨hentry, hkey, hleast⟩
      exact ⟨(h.entries _ hkey).mpr hentry, hkey,
        fun e he hsame => hleast e ((h.entries e hsame).mp he) hsame⟩
  rw [Settings.policyFor_asking, Settings.policyFor_asking, hat, hlike, h.generator]

/-! ### The pointers of a definition -/

/-- The pointers that a type names. -/
def TypeExpr.pointers : TypeExpr → List String
  | .named _ => []
  | .anyOf _ => []
  | .sequence t => t.pointers
  | .optional t => t.pointers
  | .pointer policy t => policy.pointer :: t.pointers
  | .reference t => t.pointers
  | .slice t => t.pointers
  | .fallible t => t.pointers

/-- The type of a subtree with a policy as a slot spells it, given how its target is
spelled. -/
def FieldSpec.slotText (f : FieldSpec) (p : Ownership) (target : String) : String :=
  match f.repeated, p with
  | false, .exclusive => "Option<Box<" ++ target ++ ">>"
  | false, .shared => "Option<Rc<" ++ target ++ ">>"
  | true, .exclusive => "Vec<Box<" ++ target ++ ">>"
  | true, .shared => "Vec<Rc<" ++ target ++ ">>"

/-- The type of a subtree with a policy as its accessor spells it. -/
def FieldSpec.accessText (f : FieldSpec) (p : Ownership) (target : String) : String :=
  match f.repeated, p with
  | false, .exclusive => "Result<&" ++ target ++ ", NullChildError>"
  | false, .shared => "Option<&Rc<" ++ target ++ ">>"
  | true, .exclusive => "&[Box<" ++ target ++ ">]"
  | true, .shared => "&[Rc<" ++ target ++ ">]"

/-- How a subtree with a policy stands in a definition, as the field at position `j`. -/
structure TypeDefinition.EmitsChild (t : TypeDefinition) (j : Nat) (f : FieldSpec)
    (p : Ownership) : Prop where
  /-- The parameter is of the pointer of the policy. -/
  param : ∃ slot, t.params[j]? = some slot ∧ slot.name = f.name ∧
    ("Rc" ∈ slot.type.pointers ↔ p = .shared) ∧ ("Box" ∈ slot.type.pointers ↔ p = .exclusive)
  /-- The slot is of the pointer of the policy. -/
  storage : ∃ slot, t.storage[j]? = some slot ∧ slot.name = f.name ∧
    ("Rc" ∈ slot.type.pointers ↔ p = .shared) ∧ ("Box" ∈ slot.type.pointers ↔ p = .exclusive)
  /-- The accessor hands out the pointer of the policy, save that of a single child with
  one owner, which may fail and hands out what the pointer in the slot points to. -/
  accessor : ∃ a, t.accessors[j]? = some a ∧ a.name = f.name ∧
    ("Rc" ∈ a.returnType.pointers ↔ p = .shared) ∧
    ("Box" ∈ a.returnType.pointers ↔ p = .exclusive ∧ f.repeated = true) ∧
    (p = .exclusive → f.repeated = false → ∃ target,
      t.storage[j]? = some ⟨f.name, .optional (.pointer .exclusive target)⟩ ∧
        a.returnType = .fallible (.reference target))
  /-- Parameter, slot and accessor are emitted with the pointer of the policy around the name
  of the node type or the base type. -/
  spelled : ∃ target, (target = f.type ∨ target = "dyn " ++ f.type) ∧
    t.texts.params[j]? = some ⟨f.name, f.slotText p target⟩ ∧
    t.texts.storage[j]? = some ⟨f.name, f.slotText p target⟩ ∧
    ∃ a, t.texts.accessors[j]? = some a ∧ a.name = f.name ∧ a.returnType = f.accessText p target

@[simp] theorem TreeTarget.pointers_type (target : TreeTarget) : target.type.pointers = [] := by
  cases target <;> rfl

theorem mem_pointer_iff (p : Ownership) :
    ("Rc" ∈ [p.pointer] ↔ p = .shared) ∧ ("Box" ∈ [p.pointer] ↔ p = .exclusive) := by
  cases p <;> decide

section Emitted

variable {x : ResolvedField} {p : Ownership} {target : TreeTarget}

theorem pointers_storageType (hx : x.kind = .tree p target) :
    x.storageType.pointers = [p.pointer] := by
  unfold ResolvedField.storageType
  rw [hx]
  cases x.repeated <;> simp [TypeExpr.pointers]

theorem pointers_accessor (hx : x.kind = .tree p target) (nodeType : String) :
    (x.accessor nodeType).returnType.pointers =
      if p = .exclusive ∧ x.repeated = false then [] else [p.pointer] := by
  unfold ResolvedField.accessor
  rw [hx]
  cases p <;> cases x.repeated <;> simp [TypeExpr.pointers]

theorem returnType_accessor_exclusive (hx : x.kind = .tree .exclusive target)
    (hsingle : x.repeated = false) (nodeType : String) :
    x.storageType = .optional (.pointer .exclusive target.type) ∧
      (x.accessor nodeType).returnType = .fallible (.reference target.type) := by
  unfold ResolvedField.storageType ResolvedField.accessor
  rw [hx, hsingle]
  exact ⟨rfl, rfl⟩

theorem text_storageType (hx : x.kind = .tree p target) {f : FieldSpec}
    (hrepeated : x.repeated = f.repeated) :
    x.storageType.text = f.slotText p target.type.text := by
  unfold ResolvedField.storageType FieldSpec.slotText
  rw [hx, hrepeated]
  -- the pieces of the text only stand in other brackets
  cases f.repeated <;> cases p <;>
    simp only [TypeExpr.text, Ownership.pointer, String.append_assoc] <;> rfl

theorem text_returnType (hx : x.kind = .tree p target) {f : FieldSpec}
    (hrepeated : x.repeated = f.repeated) (nodeType : String) :
    (x.accessor nodeType).returnType.text = f.accessText p target.type.text := by
  unfold ResolvedField.accessor FieldSpec.accessText
  rw [hx, hrepeated]
  cases f.repeated <;> cases p <;>
    simp only [TypeExpr.text, Ownership.pointer, nullChildError, String.append_assoc] <;> rfl

theorem text_type {f : FieldSpec} (hname : target.typeName = f.type) :
    target.type.text = f.type ∨ target.type.text = "dyn " ++ f.type := by
  cases target with
  | base family =>
    right
    exact congrArg ("dyn " ++ ·) hname
  | node family name =>
    left
    exact hname

end Emitted

/-- A resolved subtree stands in a definition by its policy. -/
theorem emitsChild_of_tree {nodeType base : String} {fields : List ResolvedField} {j : Nat}
    {f : FieldSpec} {x : ResolvedField} {p : Ownership} {target : TreeTarget}
    (hj : fields[j]? = some x) (hname : x.name = f.name) (hrepeated : x.repeated = f.repeated)
    (hx : x.kind = .tree p target) (htarget : target.typeName = f.type) :
    (TypeDefinition.of nodeType base fields).EmitsChild j f p := by
  have hslot : (fields.map (·.slot))[j]? = some x.slot := by
    rw [List.getElem?_map, hj, Option.map_some]
  have haccessor : (fields.map (·.accessor nodeType))[j]? = some (x.accessor nodeType) := by
    rw [List.getElem?_map, hj, Option.map_some]
  have hstored : x.slot.name = f.name ∧ ("Rc" ∈ x.slot.type.pointers ↔ p = .shared) ∧
      ("Box" ∈ x.slot.type.pointers ↔ p = .exclusive) := by
    rw [ResolvedField.slot, pointers_storageType hx]
    exact ⟨hname, mem_pointer_iff p⟩
  have hslotText : ((fields.map (·.slot)).map (·.texts))[j]? =
      some ⟨f.name, f.slotText p target.type.text⟩ := by
    rw [List.getElem?_map, hslot, ← hname, ← text_storageType hx hrepeated]
    rfl
  have haccessorText : ((fields.map (·.accessor nodeType)).map (·.texts))[j]? =
      some (x.accessor nodeType).texts := by
    rw [List.getElem?_map, haccessor]
    rfl
  refine ⟨⟨_, hslot, hstored⟩, ⟨_, hslot, hstored⟩, ⟨_, haccessor, ?_, ?_, ?_, ?_⟩,
    ⟨_, text_type htarget, hslotText, hslotText, _, haccessorText, ?_,
      text_returnType hx hrepeated nodeType⟩⟩
  · rw [name_accessor, hname]
  · rw [pointers_accessor hx, hrepeated]
    cases p <;> cases f.repeated <;> decide
  · rw [pointers_accessor hx, hrepeated]
    cases p <;> cases f.repeated <;> decide
  · rintro rfl hsingle
    rw [← hrepeated] at hsingle
    obtain ⟨hstorage, hreturn⟩ := returnType_accessor_exclusive hx hsingle nodeType
    refine ⟨target.type, ?_, hreturn⟩
    rw [← hname, ← hstorage]
    exact hslot
  · show (x.accessor nodeType).name = f.name
    rw [name_accessor, hname]

/-- Every subtree of a defined family stands in its definition by its resolved policy. -/
theorem emitsChild_of_defineFamily {r : Registry} {settings : Settings} {family : Family}
    {d : FamilyDefinition} (hd : r.defineFamily settings family = .ok d) {i : Nat} {n : NodeType}
    (hn : family.nodeTypes[i]? = some n) {j : Nat} {f : FieldSpec} (hf : n.fields[j]? = some f)
    (htree : f.tree = true) :
    ∃ t, d.types[i]? = some t ∧ t.name = n.name ∧
      t.EmitsChild j f (f.ownership.getD (settings.policyFor family.name)) := by
  obtain ⟨nodes, hnodes, rfl⟩ := Registry.defineFamily_eq_ok.mp hd
  obtain ⟨node, hnode, hnodeName, hfields⟩ :=
    exists_getElem?_of_forall₂ (Registry.resolveNodes_eq_ok.mp hnodes) hn
  obtain ⟨x, hx, hok⟩ := exists_getElem?_of_forall₂ hfields hf
  obtain ⟨ty, hty, kind, hfit, rfl⟩ := Registry.resolveField_eq_ok.mp hok
  refine ⟨.of node.1 family.name node.2, by rw [List.getElem?_map, hnode]; rfl, hnodeName, ?_⟩
  cases kind with
  | value path =>
    -- a subtree never becomes a plain value
    rw [(Registry.fieldKind_eq_value hfit).1] at htree
    cases htree
  | tree owner target =>
    obtain ⟨-, htarget, howner⟩ := Registry.fieldKind_eq_tree hfit
    rw [← howner]
    exact emitsChild_of_tree hx rfl rfl rfl (Registry.typeName_of_lookup hty htarget)

theorem Registry.defineFamily_eq_of_agreesFor {s s' : Settings} {family : Family}
    (h : s.AgreesFor s' family.name) (r : Registry) (asked : Option Ownership) :
    r.defineFamily (s'.asking asked) family = r.defineFamily (s.asking asked) family := by
  have hroot : (s'.asking asked).generator.moduleRoot = (s.asking asked).generator.moduleRoot := by
    cases asked with
    | none => exact congrArg (·.moduleRoot) h.generator
    | some p => exact congrArg (·.moduleRoot) h.generator
  rw [Registry.defineFamily, Registry.defineFamily, h.policyFor_asking_eq, hroot]

/-! ### From the command line to the definition -/

namespace Generator

theorem settings_of_ofSettings {t : FileTree} {r : Registry} {settings : Settings}
    {g : Generator} (h : ofSettings t r settings = .ok g) : g.settings = settings := by
  obtain ⟨template, -, h⟩ := bind_eq_ok.mp h
  obtain rfl := Except.ok.inj h
  rfl

/-- The generator of a command works with the settings that were loaded, under the policy
that the command line asks for. -/
theorem settings_of_command {o : CommandLine.GenerateOptions} {around : CommandLine.Surroundings}
    {t : FileTree} {g : Generator} (h : o.generator around t = .ok g) :
    ∃ s, Settings.load t ⟨around.userFolder, o.config, around.environment⟩ = .ok s ∧
      g.settings = s.asking o.policy := by
  obtain ⟨s, hs, h⟩ := bind_eq_ok.mp h
  refine ⟨s, mapError_eq_ok.mp hs, ?_⟩
  -- the settings do not depend on where the families come from
  dsimp only at h
  split at h
  · obtain ⟨r, -, h⟩ := bind_eq_ok.mp h
    exact settings_of_ofSettings (mapError_eq_ok.mp h)
  · obtain ⟨r, -, h⟩ := bind_eq_ok.mp h
    exact settings_of_ofSettings (mapError_eq_ok.mp h)

/-- **The policy of a subtree is the one it is emitted with.**  Under any settings and any
policy that the command line asks for, when a family can be defined, each field of its node
types that holds a subtree has exactly one policy by the five places, and the definition in
the place of the node type emits the field in its place with the pointer of this policy.
Entries for families of other names do not change what comes of the family, a definition or
a fault.  The generator of a command is one of these, with the settings that were loaded and
the policy of its command line. -/
theorem policies_cascade (r : Registry) (binding : RenderBinding) (s : Settings)
    (asked : Option Ownership) (family : Family) :
    (∀ d, Generator.define ⟨r, s.asking asked, binding⟩ family = .ok d →
      ∀ (i : Nat) (n : NodeType), family.nodeTypes[i]? = some n →
      ∀ (j : Nat) (f : FieldSpec), n.fields[j]? = some f → f.tree = true →
        ∃ t p, d.types[i]? = some t ∧ t.name = n.name ∧
          (∀ q, EffectivePolicy s asked family.name f q ↔ q = p) ∧ t.EmitsChild j f p) ∧
    (∀ s', s.AgreesFor s' family.name →
      Generator.define ⟨r, s'.asking asked, binding⟩ family =
        Generator.define ⟨r, s.asking asked, binding⟩ family) ∧
    ∀ (o : CommandLine.GenerateOptions) (around : CommandLine.Surroundings) (t : FileTree)
      (g : Generator), o.generator around t = .ok g →
        ∃ loaded, Settings.load t ⟨around.userFolder, o.config, around.environment⟩ = .ok loaded ∧
          g.settings = loaded.asking o.policy := by
  refine ⟨fun d hd i n hn j f hf htree => ?_, fun s' hs' => ?_, fun o around t g hg => ?_⟩
  · obtain ⟨t, ht, hname, hemits⟩ :=
      emitsChild_of_defineFamily (mapError_eq_ok.mp hd) hn hf htree
    exact ⟨t, _, ht, hname, fun q => effectivePolicy_iff, hemits⟩
  · rw [Generator.define, Generator.define, Registry.defineFamily_eq_of_agreesFor hs']
  · exact settings_of_command hg

/-- A family with a child, with a child that declares its owner, and with children. -/
def ownedFamily : Family :=
  ⟨"Expr", [⟨"Unary", [.subtree "Expr" "right"]⟩,
    ⟨"Call", [(FieldSpec.subtree "Expr" "callee").owned .exclusive,
      (FieldSpec.subtree "Expr" "arguments").sequence]⟩], []⟩

/-- A registry of the family alone. -/
def ownedRegistry : Registry :=
  Registry.empty.run [.family ownedFamily.name ownedFamily.nodeTypes ownedFamily.includes]

/-- Settings with two names like `Expr`, of which the one with smaller bytes is shared. -/
def likeNamedSettings : Settings :=
  ⟨.default, .ofList [("eXPR", .exclusive), ("EXPR", .shared), ("Stmt", .exclusive)]⟩

/-- The same settings about `Expr`, with entries for other families. -/
def otherwiseNamedSettings : Settings :=
  ⟨.default, .ofList [("eXPR", .exclusive), ("EXPR", .shared), ("Exprs", .exclusive)]⟩

theorem entries_likeNamedSettings : likeNamedSettings.families.entries =
    [("EXPR", .shared), ("Stmt", .exclusive), ("eXPR", .exclusive)] := by decide

theorem entries_otherwiseNamedSettings : otherwiseNamedSettings.families.entries =
    [("EXPR", .shared), ("Exprs", .exclusive), ("eXPR", .exclusive)] := by decide

/-- Whatever the settings are, the family can be defined. -/
theorem define_ownedFamily (settings : Settings) (binding : RenderBinding) :
    ∃ d, Generator.define ⟨ownedRegistry, settings, binding⟩ ownedFamily = .ok d := by
  simp only [Generator.define, Registry.defineFamily]
  cases settings.policyFor ownedFamily.name <;> exact ⟨_, rfl⟩

/-- A field without an owner of its own takes the least of the names that are like that of the
family. -/
theorem effectivePolicy_likeNamedSettings {f : FieldSpec} (hf : f.ownership = none)
    (asked : Option Ownership) : EffectivePolicy likeNamedSettings asked "Expr" f .shared := by
  have hnamed : ∀ q, ("Expr", q) ∉ likeNamedSettings.families.entries := by
    intro q
    rw [entries_likeNamedSettings]
    cases q <;> decide
  have hentry : ("EXPR", Ownership.shared) ∈ likeNamedSettings.families.entries := by
    rw [entries_likeNamedSettings]
    decide
  have hfirst : ∀ e ∈ likeNamedSettings.families.entries, ¬ e.1 < "EXPR" := by
    rw [entries_likeNamedSettings]
    decide
  exact .likeNamed hf hnamed hentry (Text.toLower_eq_iff.mpr (by decide))
    fun e he _ => Text.toUTF8_lt_iff.not.mpr (hfirst e he)

theorem agreesFor_otherwiseNamedSettings :
    likeNamedSettings.AgreesFor otherwiseNamedSettings "Expr" := by
  refine ⟨rfl, fun e he => ?_⟩
  rw [Text.toLower_eq_iff] at he
  rw [entries_likeNamedSettings, entries_otherwiseNamedSettings]
  -- the two lists only differ in an entry that is not for the family
  constructor
  · intro hmem
    revert he
    revert hmem e
    decide
  · intro hmem
    revert he
    revert hmem e
    decide

/-- A name like that of the family wins over the command line, and a field that declares its
owner wins over both.  Another entry for `Exprs` in the place of one for `Stmt` changes
nothing.  A command without any files takes the built-in settings under its policy. -/
theorem policies_cascade_ownedFamily :
    (∃ d, Generator.define
        ⟨ownedRegistry, likeNamedSettings.asking (some .exclusive), .ofTemplate moduleTemplate⟩
          ownedFamily = .ok d ∧
      (∃ t, d.types[0]? = some t ∧ t.EmitsChild 0 (.subtree "Expr" "right") .shared) ∧
      (∃ t, d.types[1]? = some t ∧
        t.EmitsChild 0 ((FieldSpec.subtree "Expr" "callee").owned .exclusive) .exclusive ∧
        t.EmitsChild 1 (FieldSpec.subtree "Expr" "arguments").sequence .shared) ∧
      Generator.define
        ⟨ownedRegistry, otherwiseNamedSettings.asking (some .exclusive),
          .ofTemplate moduleTemplate⟩ ownedFamily = .ok d) ∧
    ∃ g loaded, CommandLine.GenerateOptions.generator ⟨"out", none, none, some .shared, false⟩
        ⟨"/home", []⟩ .empty = .ok g ∧
      Settings.load .empty ⟨"/home", none, []⟩ = .ok loaded ∧
      g.settings = loaded.asking (some .shared) := by
  obtain ⟨hcascade, hagrees, hcommand⟩ := policies_cascade ownedRegistry
    (.ofTemplate moduleTemplate) likeNamedSettings (some .exclusive) ownedFamily
  constructor
  · obtain ⟨d, hd⟩ := define_ownedFamily (likeNamedSettings.asking (some .exclusive))
      (.ofTemplate moduleTemplate)
    obtain ⟨unary, _, hunary, -, hright, hemitsRight⟩ := hcascade d hd 0 _ rfl 0 _ rfl rfl
    obtain ⟨call, _, hcall, -, hcallee, hemitsCallee⟩ := hcascade d hd 1 _ rfl 0 _ rfl rfl
    obtain ⟨call', _, hcall', -, harguments, hemitsArguments⟩ := hcascade d hd 1 _ rfl 1 _ rfl rfl
    obtain rfl := (hright .shared).mp (effectivePolicy_likeNamedSettings rfl _)
    obtain rfl := (hcallee .exclusive).mp (.declared rfl)
    obtain rfl := (harguments .shared).mp (effectivePolicy_likeNamedSettings rfl _)
    obtain rfl := Option.some.inj (hcall.symm.trans hcall')
    exact ⟨d, hd, ⟨unary, hunary, hemitsRight⟩, ⟨call, hcall, hemitsCallee, hemitsArguments⟩,
      (hagrees _ agreesFor_otherwiseNamedSettings).trans hd⟩
  · have hok : (CommandLine.GenerateOptions.generator ⟨"out", none, none, some .shared, false⟩
        ⟨"/home", []⟩ .empty).isOk = true := by decide +kernel
    obtain ⟨g, hg⟩ := exists_of_isOk hok
    obtain ⟨loaded, hloaded, hsettings⟩ := hcommand _ _ _ g hg
    exact ⟨g, loaded, hg, hloaded, hsettings⟩

/-- **Not every child with one owner is handed out in its pointer**: the accessor of a single
one hands out the child itself. -/
theorem not_forall_accessor_box :
    ¬ ∀ (r : Registry) (template : String) (s : Settings) (asked : Option Ownership)
        (family : Family) (d : FamilyDefinition), r.Reachable → family ∈ r.families →
        Generator.define ⟨r, s.asking asked, .ofTemplate template⟩ family = .ok d →
        ∀ (i : Nat) (n : NodeType), family.nodeTypes[i]? = some n →
        ∀ (j : Nat) (f : FieldSpec), n.fields[j]? = some f → f.tree = true →
        ∀ t a, d.types[i]? = some t → t.accessors[j]? = some a →
          EffectivePolicy s asked family.name f .exclusive → "Box" ∈ a.returnType.pointers := by
  intro h
  have hdefine : Generator.define
      ⟨ownedRegistry, Settings.default.asking none, .ofTemplate moduleTemplate⟩ ownedFamily =
        .ok _ := rfl
  have hbox := h ownedRegistry moduleTemplate .default none ownedFamily _ ⟨_, rfl⟩ (by decide)
    hdefine 0 _ rfl 0 _ rfl rfl _ _ rfl rfl (.general rfl (by decide) rfl)
  exact absurd hbox (by decide)

end Generator

end TreeSmith
