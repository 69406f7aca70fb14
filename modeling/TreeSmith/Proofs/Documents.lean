import Mathlib.Data.List.Induction
import TreeSmith.Proofs.JsonText
import TreeSmith.Proofs.Registration
import TreeSmith.Schema.Json

/-!
# Registries as documents

A registry is listed as a document, and the document is written as JSON text.  Reading
the text gives the document again, and registering what it lists gives the registry:
everything that it holds passed the checks once, and passes them again in the order in
which it stands, because a family includes only families before it.

Whatever a document lists, the registry that comes of it has the families in the same
order, each include at its first occurrence, and each value type in the place of its
first occurrence with the path of its last.

## Main definitions

* `lastListed` — what a list of value types settles on for a name.

## Main results

* `Document.parse?_render_toJson` — a document is read back from its text.
* `Registry.Valid.ofDocument_toDocument` — the listed registry is the registry.
* `Registry.families_of_defineAll`, `Registry.foldl_putValueType` — what comes of the
  families and the value types of any document.
* `Registry.document_roundtrip` — **registries and documents agree.**
-/

namespace TreeSmith

/-! ### Documents as JSON -/

/-- A list of written values is read item by item. -/
theorem Json.listOf_array_map {α : Type} {write : α → Json} {read : Json → Option α}
    (h : ∀ a, read (write a) = some a) (as : List α) :
    Json.listOf read (.array (as.map write)) = some as := by
  rw [Json.listOf]
  induction as with
  | nil => rfl
  | cons a as ih =>
    rw [List.map_cons, List.mapM_cons, h, ih]
    rfl

theorem FieldSpec.ofJson?_toJson (f : FieldSpec) : FieldSpec.ofJson? f.toJson = some f := by
  obtain ⟨type, name, tree, repeated, ownership⟩ := f
  cases ownership with
  | none => rfl
  | some policy => cases policy <;> rfl

theorem NodeType.ofJson?_toJson (n : NodeType) : NodeType.ofJson? n.toJson = some n := by
  have hfields := Json.listOf_array_map FieldSpec.ofJson?_toJson n.fields
  -- the members are found by their keys, which leaves the lists to be read
  change (Json.listOf FieldSpec.ofJson? (.array _) >>= fun fields =>
    some (⟨n.name, fields⟩ : NodeType)) = _
  rw [hfields]
  rfl

theorem Family.ofJson?_toJson (f : Family) : Family.ofJson? f.toJson = some f := by
  have hincludes : Json.listOf Json.string? (.strings f.includes) = some f.includes :=
    Json.listOf_array_map (fun s => (rfl : Json.string? (.string s) = some s)) f.includes
  have hnodes := Json.listOf_array_map NodeType.ofJson?_toJson f.nodeTypes
  change (Json.listOf Json.string? (.strings _) >>= fun includes =>
    Json.listOf NodeType.ofJson? (.array _) >>= fun nodeTypes =>
      some (⟨f.name, nodeTypes, includes⟩ : Family)) = _
  rw [hincludes, hnodes]
  rfl

theorem ValueType.ofJson?_toJson (v : ValueType) : ValueType.ofJson? v.toJson = some v := by
  obtain ⟨name, path⟩ := v
  cases path <;> rfl

theorem Document.ofJson?_toJson (d : Document) : Document.ofJson? d.toJson = some d := by
  have hvalues := Json.listOf_array_map ValueType.ofJson?_toJson d.valueTypes
  have hfamilies := Json.listOf_array_map Family.ofJson?_toJson d.families
  change (Json.listOf ValueType.ofJson? (.array _) >>= fun valueTypes =>
    Json.listOf Family.ofJson? (.array _) >>= fun families =>
      some (⟨valueTypes, families⟩ : Document)) = _
  rw [hvalues, hfamilies]
  rfl

theorem Json.plain_record {members : List (String × Json)} (h : ∀ m ∈ members, m.2.Plain) :
    (Json.record members).Plain := by
  refine .object ?_ ?_
  · intro m hm
    obtain ⟨l, -, rfl⟩ := List.mem_map.mp hm
    rfl
  · intro m hm
    obtain ⟨l, hl, rfl⟩ := List.mem_map.mp hm
    exact h l hl

theorem Json.plain_array_map {α : Type} {write : α → Json} (h : ∀ a, (write a).Plain)
    (as : List α) : (Json.array (as.map write)).Plain := by
  refine .array fun j hj => ?_
  obtain ⟨a, -, rfl⟩ := List.mem_map.mp hj
  exact h a

theorem FieldSpec.plain_toJson (f : FieldSpec) : f.toJson.Plain := by
  refine Json.plain_record ?_
  obtain ⟨type, name, tree, repeated, ownership⟩ := f
  cases ownership <;> simp [Json.Plain.string, Json.Plain.bool, Ownership.toJson]

theorem NodeType.plain_toJson (n : NodeType) : n.toJson.Plain := by
  refine Json.plain_record ?_
  simp [Json.Plain.string, Json.plain_array_map FieldSpec.plain_toJson]

theorem Family.plain_toJson (f : Family) : f.toJson.Plain := by
  refine Json.plain_record ?_
  simp [Json.Plain.string, Json.strings, Json.plain_array_map .string,
    Json.plain_array_map NodeType.plain_toJson]

theorem ValueType.plain_toJson (v : ValueType) : v.toJson.Plain := by
  refine Json.plain_record ?_
  cases v.path <;> simp [Json.Plain.string]

theorem Document.plain_toJson (d : Document) : d.toJson.Plain := by
  refine Json.plain_record ?_
  simp [Json.plain_array_map ValueType.plain_toJson, Json.plain_array_map Family.plain_toJson]

/-- A document is read back from its text. -/
theorem Document.parse?_render_toJson (d : Document) : Document.parse? d.toJson.render = some d := by
  rw [Document.parse?, Json.parse?_render d.plain_toJson, Option.bind_some, d.ofJson?_toJson]

/-! ### First occurrences -/

section Distinct

variable {α : Type} [DecidableEq α]

theorem distinct_of_nodup {as : List α} (h : as.Nodup) : distinct as = as := by
  induction as with
  | nil => rfl
  | cons a as ih =>
    obtain ⟨ha, has⟩ := List.nodup_cons.mp h
    rw [distinct, ih has, List.filter_eq_self.mpr]
    intro b hb
    simp only [ne_eq, decide_eq_true_eq]
    rintro rfl
    exact ha hb

theorem distinct_filter (p : α → Bool) (as : List α) :
    distinct (as.filter p) = (distinct as).filter p := by
  induction as with
  | nil => rfl
  | cons a as ih =>
    by_cases ha : p a = true
    · rw [List.filter_cons_of_pos ha, distinct, distinct, List.filter_cons_of_pos ha, ih,
        List.filter_comm]
    · rw [List.filter_cons_of_neg ha, ih, distinct, List.filter_cons_of_neg ha,
        List.filter_filter]
      refine List.filter_congr fun b _ => ?_
      by_cases hb : b = a
      · simp [hb, ha]
      · simp [hb]

/-- First occurrences are what is left without repetitions. -/
theorem distinct_eq_eraseDups : ∀ as : List α, distinct as = as.eraseDups
  | [] => rfl
  | a :: as => by
    have hfilter : as.filter (fun b => !b == a) = as.filter (· ≠ a) := by
      refine List.filter_congr fun b _ => ?_
      by_cases hb : b = a <;> simp [hb]
    rw [distinct, ← distinct_filter, List.eraseDups_cons, hfilter,
      distinct_eq_eraseDups (as.filter (· ≠ a))]
termination_by as => as.length
decreasing_by exact Nat.lt_succ_of_le (List.length_filter_le _ _)

/-- A last element is a first occurrence when it is new. -/
theorem eraseDups_concat (as : List α) (a : α) :
    (as ++ [a]).eraseDups = if a ∈ as then as.eraseDups else as.eraseDups ++ [a] := by
  rw [List.eraseDups_append, List.removeAll, List.filter_cons, List.filter_nil]
  by_cases ha : a ∈ as
  · simp [ha]
  · simp [ha, List.eraseDups_cons]

end Distinct

namespace Registry

/-! ### Listing a registry and registering it again -/

/-- Value types of different names register in order, after those that are there. -/
theorem registerAll_replay {families : List Family} {ws : List ValueType}
    (hvalid : ∀ v ∈ ws, v.Valid) : ∀ {done : List ValueType},
    ((done ++ ws).map (·.name)).Nodup →
      registerAll ⟨done, families⟩ ws = .ok ⟨done ++ ws, families⟩ := by
  induction ws with
  | nil =>
    intro done _
    rw [registerAll, List.append_nil]
  | cons v ws ih =>
    intro done hnodup
    have hv := hvalid v List.mem_cons_self
    -- the name is new, so the value type goes to the end and replaces nothing
    have hnew : v.name ∉ done.map (·.name) := by
      rw [List.map_append, List.map_cons, List.nodup_append] at hnodup
      intro hmem
      exact hnodup.2.2 _ hmem _ List.mem_cons_self rfl
    have hpath : v.path.filter (· ≠ "") = v.path := by
      cases hpath : v.path with
      | none => rfl
      | some path =>
        have hne : path ≠ "" := fun h => hv.path (h ▸ hpath)
        rw [Option.filter_some_pos (by simpa using hne)]
    have hput : registerValueType ⟨done, families⟩ v.name v.path = .ok ⟨done ++ [v], families⟩ := by
      rw [registerValueType_eq_ok, hpath, putValueType_of_notMem hnew]
      exact ⟨hv.identifier, rfl⟩
    rw [List.append_cons] at hnodup ⊢
    rw [registerAll, hput, ok_bind, ih (fun w hw => hvalid w (List.mem_cons_of_mem _ hw)) hnodup]

/-- The families of a valid registry register in order, after those that stand before
them. -/
theorem Valid.defineAll_replay {r : Registry} (hr : r.Valid) {rest : List Family} :
    ∀ {done : List Family}, r.families = done ++ rest →
      defineAll ⟨r.valueTypes, done⟩ rest = .ok r := by
  induction rest with
  | nil =>
    intro done hsplit
    rw [List.append_nil] at hsplit
    rw [defineAll, ← hsplit]
  | cons f rest ih =>
    intro done hsplit
    have hmem : f ∈ r.families := by
      rw [hsplit]
      exact List.mem_append_right _ List.mem_cons_self
    have hf := hr.families f hmem
    have hnew : f.name ∉ done.map (·.name) := by
      have hnodup := hr.families_nodup
      rw [hsplit, List.map_append, List.map_cons, List.nodup_append] at hnodup
      intro hname
      exact hnodup.2.2 _ hname _ List.mem_cons_self rfl
    have hincludes : ∀ g ∈ f.includes, g ∈ done.map (·.name) := by
      intro g hg
      -- what the family includes stands before it, and so among what is registered by now
      have hplace : r.families[done.length]? = some f := by
        rw [hsplit, List.getElem?_append_right Nat.le.refl, Nat.sub_self]
        rfl
      obtain ⟨j, hj, e, he, rfl⟩ := hr.includes_earlier _ f hplace g hg
      rw [hsplit, List.getElem?_append_left hj] at he
      exact List.mem_map_of_mem (List.mem_of_getElem? he)
    have hdefine : define ⟨r.valueTypes, done⟩ f.name f.nodeTypes f.includes =
        .ok ⟨r.valueTypes, done ++ [f]⟩ := by
      refine define_eq_ok.mpr ⟨⟨hf.name, hf.snake⟩, hnew, hincludes,
        ⟨fun n hn => ⟨hf.nodeTypes n hn, hf.nodeTypes_ne n hn⟩, hf.nodeTypes_nodup⟩, ?_⟩
      rw [distinct_of_nodup hf.includes_nodup]
    rw [List.append_cons] at hsplit
    rw [defineAll, hdefine, ok_bind, ih hsplit]

/-- A valid registry is the registry of its list. -/
theorem Valid.ofDocument_toDocument {r : Registry} (hr : r.Valid) :
    ofDocument r.toDocument = .ok r := by
  have hvalues : registerAll empty r.valueTypes = .ok ⟨r.valueTypes, []⟩ :=
    registerAll_replay hr.valueTypes hr.valueTypes_nodup
  have hfamilies := hr.defineAll_replay (List.nil_append r.families).symm
  rw [ofDocument, toDocument, hvalues, ok_bind, hfamilies]

end Registry

/-! ### The registry of any document -/

/-- The value type as it is registered: an empty path is none. -/
def ValueType.registered (v : ValueType) : ValueType :=
  ⟨v.name, v.path.filter (· ≠ "")⟩

/-- What a list of value types settles on for a name: the path of the last one, where an
empty path is none. -/
def lastListed (vs : List ValueType) (name : String) : ValueType :=
  ⟨name, ((vs.reverse.find? (·.name == name)).bind (·.path)).filter (· ≠ "")⟩

theorem lastListed_append (vs : List ValueType) (v : ValueType) (name : String) :
    lastListed (vs ++ [v]) name = if name = v.name then v.registered else lastListed vs name := by
  rw [lastListed, List.reverse_append, List.reverse_singleton, List.singleton_append]
  by_cases h : name = v.name
  · rw [if_pos h, List.find?_cons_of_pos (by simp [h]), h]
    rfl
  · rw [if_neg h, List.find?_cons_of_neg (by simp [Ne.symm h])]
    rfl

namespace Registry

/-- Putting a value type into a list with its name changes the entry of that name. -/
theorem putValueType_map_of_mem {v : ValueType} {entry : String → ValueType}
    (hentry : ∀ name, (entry name).name = name) {names : List String} (hnodup : names.Nodup)
    (hmem : v.name ∈ names) :
    putValueType v (names.map entry) =
      names.map fun name => if name = v.name then v else entry name := by
  induction names with
  | nil => cases hmem
  | cons name names ih =>
    obtain ⟨hname, hnames⟩ := List.nodup_cons.mp hnodup
    rw [List.map_cons, List.map_cons, putValueType, hentry]
    by_cases h : name = v.name
    · rw [if_pos h, if_pos h]
      congr 1
      refine List.map_congr_left fun other hother => ?_
      rw [if_neg]
      rintro rfl
      exact hname (h ▸ hother)
    · rw [if_neg h, if_neg h, ih hnames ((List.mem_cons.mp hmem).resolve_left (Ne.symm h))]

/-- Value types put one after another stand at their first occurrences, with the paths
of their last ones. -/
theorem foldl_putValueType (vs : List ValueType) :
    vs.foldl (fun ws v => putValueType v.registered ws) [] =
      (vs.map (·.name)).eraseDups.map (lastListed vs) := by
  -- from the back, since the last entry of a name is the one that counts
  induction vs using List.reverseRecOn with
  | nil => rfl
  | append_singleton vs v ih =>
    have hnodup : (vs.map (·.name)).eraseDups.Nodup := by
      rw [← distinct_eq_eraseDups]
      exact nodup_distinct _
    have hentry : lastListed (vs ++ [v]) =
        fun name => if name = v.name then v.registered else lastListed vs name :=
      funext (lastListed_append vs v)
    rw [List.foldl_append, List.foldl_cons, List.foldl_nil, ih, List.map_append,
      List.map_singleton, eraseDups_concat, hentry]
    split_ifs with hmem
    · exact putValueType_map_of_mem (fun _ => rfl) hnodup (List.mem_eraseDups.mpr hmem)
    · -- a new name goes to the end, and no entry before it is of that name
      have hnames : ((vs.map (·.name)).eraseDups.map (lastListed vs)).map (·.name) =
          (vs.map (·.name)).eraseDups := by
        rw [List.map_map]
        exact List.map_id _
      have hnew : v.registered.name ∉
          ((vs.map (·.name)).eraseDups.map (lastListed vs)).map (·.name) := by
        rw [hnames, List.mem_eraseDups]
        exact hmem
      rw [putValueType_of_notMem hnew, List.map_append, List.map_singleton, if_pos rfl]
      congr 1
      refine List.map_congr_left fun name hname => ?_
      rw [if_neg]
      rintro rfl
      exact hmem (List.mem_eraseDups.mp hname)

/-- A document's value types register when all their names are identifiers. -/
theorem registerAll_eq_ok {vs : List ValueType} : ∀ {r r' : Registry},
    r.registerAll vs = .ok r' ↔ (∀ v ∈ vs, Name.isIdentifier v.name = true) ∧
      r' = ⟨vs.foldl (fun ws v => putValueType v.registered ws) r.valueTypes, r.families⟩ := by
  induction vs with
  | nil =>
    intro r r'
    constructor
    · intro h
      obtain rfl := Except.ok.inj h
      exact ⟨nofun, rfl⟩
    · rintro ⟨-, rfl⟩
      rfl
  | cons v vs ih =>
    intro r r'
    simp only [registerAll, bind_eq_ok, registerValueType_eq_ok, ih, List.forall_mem_cons]
    constructor
    · rintro ⟨_, ⟨hv, rfl⟩, hvs, rfl⟩
      exact ⟨⟨hv, hvs⟩, rfl⟩
    · rintro ⟨⟨hv, hvs⟩, rfl⟩
      exact ⟨_, ⟨hv, rfl⟩, hvs, rfl⟩

/-- Families register at the end, with their includes reduced to first occurrences. -/
theorem families_of_defineAll {fs : List Family} : ∀ {r r' : Registry},
    r.defineAll fs = .ok r' → r'.valueTypes = r.valueTypes ∧
      r'.families = r.families ++ fs.map fun f => { f with includes := f.includes.eraseDups } := by
  induction fs with
  | nil =>
    intro r r' h
    obtain rfl := Except.ok.inj h
    exact ⟨rfl, (List.append_nil _).symm⟩
  | cons f fs ih =>
    intro r r' h
    obtain ⟨s, hs, hrest⟩ := bind_eq_ok.mp h
    obtain ⟨-, -, -, -, rfl⟩ := define_eq_ok.mp hs
    obtain ⟨hvalues, hfamilies⟩ := ih hrest
    refine ⟨hvalues, ?_⟩
    rw [hfamilies, List.map_cons, distinct_eq_eraseDups, List.append_assoc, List.singleton_append]

/-- **Registries and documents agree.**  Every reachable registry is read back from the
text of the document that lists it.  Of any document that can be registered, the registry
has the families in order, with each include at its first occurrence, and each value type
at its first occurrence with the path of its last. -/
theorem document_roundtrip :
    (∀ r : Registry, r.Reachable →
      (Document.parse? r.toDocument.toJson.render).map ofDocument = some (.ok r)) ∧
    ∀ (d : Document) (r : Registry), ofDocument d = .ok r →
      r.families = d.families.map (fun f => { f with includes := f.includes.eraseDups }) ∧
      r.valueTypes = (d.valueTypes.map (·.name)).eraseDups.map (lastListed d.valueTypes) := by
  refine ⟨fun r hr => ?_, fun d r h => ?_⟩
  · rw [Document.parse?_render_toJson, Option.map_some, hr.valid.ofDocument_toDocument]
  · obtain ⟨s, hs, hdefine⟩ := bind_eq_ok.mp h
    obtain ⟨-, rfl⟩ := registerAll_eq_ok.mp hs
    obtain ⟨hvalues, hfamilies⟩ := families_of_defineAll hdefine
    exact ⟨hfamilies, hvalues.trans (foldl_putValueType d.valueTypes)⟩

/-- A registry with a path, an include and an ownership of its own. -/
def listedRegistry : Registry :=
  empty.run
    [.valueType "Token" (some "super::Token"), .valueType "bool" none,
      .family "Expr" [⟨"Unary", [.value "Token" "op", .subtree "Expr" "right"]⟩] [],
      .family "Stmt"
        [⟨"If", [.subtree "Expr" "condition", (FieldSpec.subtree "Stmt" "otherwise").owned .shared]⟩]
        ["Expr"]]

/-- A document that lists a value type twice, an empty path and an include twice. -/
def repeatingDocument : Document :=
  ⟨[⟨"Token", none⟩, ⟨"Value", some ""⟩, ⟨"Token", some "super::Token"⟩],
    [⟨"Expr", [], []⟩, ⟨"Stmt", [], ["Expr", "Expr"]⟩]⟩

/-- The registry is read back, and the repetitions of the document are gone. -/
theorem document_roundtrip_listedRegistry :
    listedRegistry.families.length = 2 ∧
    (Document.parse? listedRegistry.toDocument.toJson.render).map ofDocument =
      some (.ok listedRegistry) ∧
    ∃ r, ofDocument repeatingDocument = .ok r ∧
      r.families = [⟨"Expr", [], []⟩, ⟨"Stmt", [], ["Expr"]⟩] ∧
      r.valueTypes = [⟨"Token", some "super::Token"⟩, ⟨"Value", none⟩] := by
  have hregister : ofDocument repeatingDocument = .ok _ := rfl
  obtain ⟨hlisted, hread⟩ := document_roundtrip
  obtain ⟨hfamilies, hvalues⟩ := hread _ _ hregister
  exact ⟨by decide, hlisted listedRegistry ⟨_, rfl⟩, _, hregister, hfamilies.trans (by decide),
    hvalues.trans (by decide)⟩

end Registry

end TreeSmith
