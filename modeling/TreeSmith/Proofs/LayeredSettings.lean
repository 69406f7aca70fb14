import TreeSmith.Proofs.Overrides

/-!
# Settings of layers

Settings are loaded from up to six layers.  Whether they can be loaded, and what they are,
depends on what the layers come to under the keys that are used, one key at a time.  Mostly this
is what the last layer sets.  But a table goes into what is below, and so two tables can come to
something that neither of them is.

## Main definitions

* `Settings.Convertible` — what stands under each used key can be read.
* `Settings.ReadFrom` — settings are what stands under their keys, or the defaults.

## Main results

* `FamilyPolicies.mem_of_ofSetting?` — the policies of a table.
* `Settings.exists_ofTable?_eq_some`, `Settings.readFrom_of_ofTable?` — what a merged table is
  read as.
* `Settings.load_overrides` — **layers override each other key by key.**
-/

namespace TreeSmith

/-! ### From merged layers to settings -/

/-- The table has the sections as tables, with given settings under their keys. -/
structure Setting.Holds (es : Layer) (value : String → String → Option Setting) : Prop where
  /-- The sections are tables with different keys. -/
  tables : ∀ sect ∈ sections, (Setting.table es).HasSection sect
  /-- What stands under their keys. -/
  values : ∀ sect ∈ sections, ∀ key, (Setting.table es).valueAt sect key = value sect key

theorem Setting.holds_mergeLayers {layers : List Layer}
    (hlayers : ∀ layer ∈ layers, keepsSections layer = true) :
    Holds (mergeLayers layers) (settled layers) where
  tables := fun _ hsect => (mergeLayers_section hlayers hsect).1
  values := fun _ hsect => (mergeLayers_section hlayers hsect).2

/-- Every setting that is used can be read as what it is used for. -/
structure Settings.Convertible (value : String → String → Option Setting) : Prop where
  /-- The policy of the run is one. -/
  policy : ∀ v, value "generator" "policy" = some v → v.policy?.isSome = true
  /-- The template is a text, or nothing. -/
  template : ∀ v, value "generator" "template" = some v → v.optionalText?.isSome = true
  /-- The path to modules is a text. -/
  moduleRoot : ∀ v, value "generator" "module_root" = some v → v.text?.isSome = true
  /-- Every family has a policy. -/
  families : ∀ key v, value "families" key = some v → v.policy?.isSome = true

/-- The settings are what stands under their keys, or the default where nothing does. -/
structure Settings.ReadFrom (s : Settings) (value : String → String → Option Setting) : Prop where
  /-- The policy of the run, by default one owner. -/
  policy : (value "generator" "policy").elim (some .exclusive) Setting.policy? =
    some s.generator.policy
  /-- The template, by default none. -/
  template : (value "generator" "template").elim (some none) Setting.optionalText? =
    some s.generator.template
  /-- The path to modules, by default the folder above. -/
  moduleRoot : (value "generator" "module_root").elim (some "super") Setting.text? =
    some s.generator.moduleRoot
  /-- The families with policies are those with something under their key. -/
  keys : ∀ key, key ∈ s.families.entries.map (·.1) ↔ (value "families" key).isSome = true
  /-- Each has the policy that stands there. -/
  families : ∀ key policy, (key, policy) ∈ s.families.entries ↔
    ∃ v, value "families" key = some v ∧ v.policy? = some policy

section Reading

variable {es : List (String × Setting)} {value : String → String → Option Setting}

theorem settingOr_eq_elim {α : Type} (d : α) (read : Setting → Option α) (v : Option Setting) :
    settingOr d read v = v.elim (some d) read := by
  cases v <;> rfl

theorem exists_settingOr_eq_some {α : Type} {d : α} {read : Setting → Option α}
    {v : Option Setting} :
    (∃ a, settingOr d read v = some a) ↔ ∀ w, v = some w → (read w).isSome = true := by
  cases v with
  | none => simp [settingOr]
  | some w => simp [settingOr, Option.isSome_iff_exists]

theorem GeneratorSettings.ofParts?_eq_some {policy template moduleRoot : Option Setting}
    {g : GeneratorSettings} :
    ofParts? policy template moduleRoot = some g ↔
      settingOr default.policy Setting.policy? policy = some g.policy ∧
      settingOr none Setting.optionalText? template = some g.template ∧
      settingOr default.moduleRoot Setting.text? moduleRoot = some g.moduleRoot := by
  constructor
  · intro h
    obtain ⟨p, hp, h⟩ := Option.bind_eq_some_iff.mp h
    obtain ⟨q, hq, h⟩ := Option.bind_eq_some_iff.mp h
    obtain ⟨r, hr, h⟩ := Option.bind_eq_some_iff.mp h
    obtain rfl := Option.some.inj h
    exact ⟨hp, hq, hr⟩
  · rintro ⟨hp, hq, hr⟩
    rw [ofParts?, hp, hq, hr]
    rfl

/-- A section that is not there reads as an empty one. -/
theorem settingOr_section {α : Type} {d : α} {read : Setting → Option α} {sect : String}
    (h : (Setting.table es).HasSection sect) (hempty : read (.table []) = some d) :
    settingOr d read (Setting.find? sect es) =
      read (.table ((Setting.table es).inSection sect)) := by
  unfold Setting.inSection
  rw [Setting.entries]
  cases hfind : Setting.find? sect es with
  | none => exact hempty.symm
  | some v =>
    obtain ⟨fs, rfl, -⟩ := h v hfind
    rfl

theorem Setting.find?_eq_some_iff {key : String} {v : Setting} (hnodup : (es.map (·.1)).Nodup) :
    Setting.find? key es = some v ↔ (key, v) ∈ es := by
  rw [Setting.find?, Option.map_eq_some_iff]
  constructor
  · rintro ⟨e, hfind, rfl⟩
    have hkey : e.1 = key := by simpa using List.find?_some hfind
    exact hkey ▸ List.mem_of_find?_eq_some hfind
  · intro hmem
    exact ⟨(key, v), find?_name_eq_some hnodup hmem, rfl⟩

namespace FamilyPolicies

variable {fs : List (String × Setting)}

/-- The entry of a family and the setting that it is read from. -/
def EntryFor (f : String × Setting) (q : String × Ownership) : Prop :=
  q.1 = f.1 ∧ f.2.policy? = some q.2

/-- Policies are read entry by entry. -/
theorem ofSetting?_eq_some {p : FamilyPolicies} :
    ofSetting? (.table fs) = some p ↔ ∃ ps, List.Forall₂ EntryFor fs ps ∧ ofList ps = p := by
  have hread : ∀ ps, fs.mapM (fun f => do
      let policy ← f.2.policy?
      return (f.1, policy)) = some ps ↔ List.Forall₂ EntryFor fs ps := by
    induction fs with
    | nil =>
      intro ps
      rw [List.mapM_nil, List.forall₂_nil_left_iff]
      exact Option.some_inj.trans eq_comm
    | cons f fs ih =>
      intro ps
      obtain ⟨name, v⟩ := f
      rw [List.mapM_cons, List.forall₂_cons_left_iff]
      constructor
      · intro h
        obtain ⟨q, hq, h⟩ := Option.bind_eq_some_iff.mp h
        obtain ⟨policy, hpolicy, hq⟩ := Option.bind_eq_some_iff.mp hq
        obtain ⟨qs, hqs, h⟩ := Option.bind_eq_some_iff.mp h
        obtain rfl := Option.some.inj hq
        obtain rfl := Option.some.inj h
        exact ⟨_, qs, ⟨rfl, hpolicy⟩, (ih qs).mp hqs, rfl⟩
      · rintro ⟨⟨key, policy⟩, qs, ⟨rfl, hpolicy⟩, hqs, rfl⟩
        rw [(ih qs).mpr hqs]
        dsimp only at hpolicy ⊢
        rw [hpolicy]
        rfl
  rw [ofSetting?]
  constructor
  · intro h
    obtain ⟨ps, hps, h⟩ := Option.bind_eq_some_iff.mp h
    exact ⟨ps, (hread ps).mp hps, Option.some.inj h⟩
  · rintro ⟨ps, hps, rfl⟩
    exact Option.bind_eq_some_iff.mpr ⟨ps, (hread ps).mpr hps, rfl⟩

/-- The policies can be read when each of them can. -/
theorem exists_ofSetting?_eq_some :
    (∃ p, ofSetting? (.table fs) = some p) ↔ ∀ f ∈ fs, f.2.policy?.isSome = true := by
  constructor
  · rintro ⟨p, hp⟩ f hf
    obtain ⟨ps, hps, -⟩ := ofSetting?_eq_some.mp hp
    obtain ⟨q, -, -, hq⟩ := exists_right_of_forall₂ hps f hf
    rw [hq]
    rfl
  · intro h
    obtain ⟨ps, hps⟩ : ∃ ps, List.Forall₂ EntryFor fs ps := by
      induction fs with
      | nil => exact ⟨[], .nil⟩
      | cons f fs ih =>
        obtain ⟨hf, hfs⟩ := List.forall_mem_cons.mp h
        obtain ⟨policy, hpolicy⟩ := Option.isSome_iff_exists.mp hf
        obtain ⟨ps, hps⟩ := ih hfs
        exact ⟨(f.1, policy) :: ps, .cons ⟨rfl, hpolicy⟩ hps⟩
    exact ⟨ofList ps, ofSetting?_eq_some.mpr ⟨ps, hps, rfl⟩⟩

/-- From a table with different keys come exactly the policies under these keys. -/
theorem mem_of_ofSetting? (hnodup : (fs.map (·.1)).Nodup) {p : FamilyPolicies}
    (h : ofSetting? (.table fs) = some p) (key : String) (policy : Ownership) :
    (key, policy) ∈ p.entries ↔ ∃ v, (key, v) ∈ fs ∧ v.policy? = some policy := by
  obtain ⟨ps, hps, rfl⟩ := ofSetting?_eq_some.mp h
  have hkeys : ps.map (·.1) = fs.map (·.1) :=
    map_eq_map_of_forall₂ (hps.imp fun _ _ hentry => hentry.1)
  have hmem : (key, policy) ∈ (ofList ps).entries ↔ (key, policy) ∈ ps := by
    have hps' : (empty.entries.map (·.1) ++ ps.map (·.1)).Nodup := by
      rw [hkeys]
      exact hnodup
    simpa [empty, ofList] using mem_foldl_insert hps' (key, policy)
  rw [hmem]
  constructor
  · intro hq
    obtain ⟨⟨key', v⟩, hf, hkey, hv⟩ := exists_left_of_forall₂ hps _ hq
    obtain rfl : key = key' := hkey
    exact ⟨v, hf, hv⟩
  · rintro ⟨v, hf, hv⟩
    obtain ⟨⟨key', policy'⟩, hq, hkey, hv'⟩ := exists_right_of_forall₂ hps _ hf
    obtain rfl : key' = key := hkey
    obtain rfl : policy = policy' := Option.some.inj (hv.symm.trans hv')
    exact hq

end FamilyPolicies

namespace Settings

/-- Settings are read section by section, and the run's settings key by key. -/
theorem ofTable?_eq_some (h : Setting.Holds es value) {s : Settings} :
    ofTable? es = some s ↔
      GeneratorSettings.ofParts? (value "generator" "policy") (value "generator" "template")
        (value "generator" "module_root") = some s.generator ∧
      FamilyPolicies.ofSetting? (.table ((Setting.table es).inSection "families")) =
        some s.families := by
  have hgenerator : settingOr .default GeneratorSettings.ofSetting?
      (Setting.find? "generator" es) =
        GeneratorSettings.ofParts? (value "generator" "policy") (value "generator" "template")
          (value "generator" "module_root") := by
    have hsect : "generator" ∈ Setting.sections := by decide
    have hempty : GeneratorSettings.ofSetting? (.table []) = some .default := rfl
    rw [settingOr_section (h.tables _ hsect) hempty, GeneratorSettings.ofSetting?,
      ← h.values _ hsect, ← h.values _ hsect, ← h.values _ hsect]
    rfl
  have hfamilies : settingOr .empty FamilyPolicies.ofSetting? (Setting.find? "families" es) =
      FamilyPolicies.ofSetting? (.table ((Setting.table es).inSection "families")) :=
    settingOr_section (h.tables _ (by decide)) rfl
  rw [ofTable?, hgenerator, hfamilies]
  constructor
  · intro hs
    obtain ⟨g, hg, hs⟩ := Option.bind_eq_some_iff.mp hs
    obtain ⟨p, hp, hs⟩ := Option.bind_eq_some_iff.mp hs
    obtain rfl := Option.some.inj hs
    exact ⟨hg, hp⟩
  · rintro ⟨hg, hp⟩
    rw [hg, hp]
    rfl

/-- What stands in the section of families, as its entries. -/
theorem mem_families_iff (h : Setting.Holds es value) {key : String} {v : Setting} :
    (key, v) ∈ (Setting.table es).inSection "families" ↔ value "families" key = some v := by
  have hsect : "families" ∈ Setting.sections := by decide
  rw [← h.values _ hsect, Setting.valueAt, Setting.find?_eq_some_iff (h.tables _ hsect).nodup]

/-- There are settings to read when every used key can be read. -/
theorem exists_ofTable?_eq_some (h : Setting.Holds es value) :
    (∃ s, ofTable? es = some s) ↔ Convertible value := by
  constructor
  · rintro ⟨s, hs⟩
    obtain ⟨hg, hp⟩ := (ofTable?_eq_some h).mp hs
    obtain ⟨hpolicy, htemplate, hroot⟩ := GeneratorSettings.ofParts?_eq_some.mp hg
    exact {
      policy := exists_settingOr_eq_some.mp ⟨_, hpolicy⟩
      template := exists_settingOr_eq_some.mp ⟨_, htemplate⟩
      moduleRoot := exists_settingOr_eq_some.mp ⟨_, hroot⟩
      families := fun key v hv =>
        FamilyPolicies.exists_ofSetting?_eq_some.mp ⟨_, hp⟩ _ ((mem_families_iff h).mpr hv) }
  · intro hvalue
    obtain ⟨policy, hpolicy⟩ := exists_settingOr_eq_some.mpr hvalue.policy
    obtain ⟨template, htemplate⟩ := exists_settingOr_eq_some.mpr hvalue.template
    obtain ⟨root, hroot⟩ := exists_settingOr_eq_some.mpr hvalue.moduleRoot
    obtain ⟨p, hp⟩ := FamilyPolicies.exists_ofSetting?_eq_some.mpr fun f hf =>
      hvalue.families f.1 f.2 ((mem_families_iff h).mp hf)
    refine ⟨⟨⟨policy, template, root⟩, p⟩, (ofTable?_eq_some h).mpr ⟨?_, hp⟩⟩
    exact GeneratorSettings.ofParts?_eq_some.mpr ⟨hpolicy, htemplate, hroot⟩

/-- Settings that are read are what stands under their keys. -/
theorem readFrom_of_ofTable? (h : Setting.Holds es value) {s : Settings}
    (hs : ofTable? es = some s) : s.ReadFrom value := by
  obtain ⟨hg, hp⟩ := (ofTable?_eq_some h).mp hs
  obtain ⟨hpolicy, htemplate, hroot⟩ := GeneratorSettings.ofParts?_eq_some.mp hg
  rw [settingOr_eq_elim] at hpolicy htemplate hroot
  have hmem : ∀ key policy, (key, policy) ∈ s.families.entries ↔
      ∃ v, value "families" key = some v ∧ v.policy? = some policy := by
    intro key policy
    simp only [← mem_families_iff h]
    exact FamilyPolicies.mem_of_ofSetting? (h.tables _ (by decide)).nodup hp key policy
  refine ⟨hpolicy, htemplate, hroot, fun key => ?_, hmem⟩
  constructor
  · intro hkey
    obtain ⟨⟨_, policy⟩, hentry, rfl⟩ := List.mem_map.mp hkey
    obtain ⟨v, hv, -⟩ := (hmem _ policy).mp hentry
    exact Option.isSome_iff_exists.mpr ⟨v, hv⟩
  · intro hkey
    -- the setting under the key is a policy, for there are settings at all
    obtain ⟨v, hv⟩ := Option.isSome_iff_exists.mp hkey
    have hconvertible := (exists_ofTable?_eq_some h).mp ⟨s, hs⟩
    obtain ⟨policy, hpolicy⟩ := Option.isSome_iff_exists.mp (hconvertible.families key v hv)
    exact List.mem_map.mpr ⟨_, (hmem key policy).mpr ⟨v, hv, hpolicy⟩, rfl⟩

end Settings

end Reading

/-! ### Loading -/

section Load

variable {t : FileTree} {sources : SettingsSources}

theorem SettingsSources.layers_eq_ok {first second third own : Layer} {named : List Layer}
    (hfirst : optionalLayer t "astgen.toml" = .ok first)
    (hsecond : optionalLayer t ".astgen.toml" = .ok second)
    (hthird : optionalLayer t "config/astgen.toml" = .ok third)
    (hown : userLayer t (userSettingsPath sources.userFolder) = .ok own)
    (hnamed : List.Forall₂ (fun path layer => requiredLayer t path = .ok layer)
      sources.explicit.toList named) :
    sources.layers t =
      .ok ([first, second, third, own] ++ named ++
        [Setting.environmentLayer sources.environment]) := by
  have husual : settingsPaths.mapM (optionalLayer t) = .ok [first, second, third] := by
    simp only [settingsPaths, List.mapM_cons, List.mapM_nil, hfirst, hsecond, hthird]
    rfl
  have hexplicit : sources.explicit.toList.mapM (requiredLayer t) = .ok named := by
    generalize sources.explicit.toList = paths at hnamed
    induction hnamed with
    | nil => rfl
    | cons hlayer _ ih =>
      rw [List.mapM_cons, hlayer, ok_bind, ih]
      rfl
  rw [layers, husual, ok_bind, hown, ok_bind, hexplicit]
  rfl

theorem Settings.load_eq_ok {layers : List Layer} (h : sources.layers t = .ok layers)
    {s : Settings} : load t sources = .ok s ↔ ofTable? (mergeLayers layers) = some s := by
  rw [load, h, ok_bind]
  cases ofTable? (mergeLayers layers) <;> simp

/-- **Layers override each other key by key.**  From the bottom up they are the three files of
the working folder, the user's own file, the file that the user names, and the environment.
When the sections are tables in all of them, there are settings just if what the layers come to
under each used key can be read, and then the settings are that or the defaults.  What they come
to is set just if some layer sets it, and it is what the last layer to do so sets, unless this is
a table or something inside the setting: that goes into what the layers below come to.  Where no
layer sets a key twice, in whatever letters, the order inside the layers plays no part. -/
theorem Settings.load_overrides {first second third own : Layer} {named layers : List Layer}
    (hfirst : optionalLayer t "astgen.toml" = .ok first)
    (hsecond : optionalLayer t ".astgen.toml" = .ok second)
    (hthird : optionalLayer t "config/astgen.toml" = .ok third)
    (hown : userLayer t (userSettingsPath sources.userFolder) = .ok own)
    (hnamed : List.Forall₂ (fun path layer => requiredLayer t path = .ok layer)
      sources.explicit.toList named)
    (hlayers : layers = [first, second, third, own] ++ named ++
      [Setting.environmentLayer sources.environment])
    (htables : ∀ layer ∈ layers, Setting.keepsSections layer = true) :
    ((∃ s, load t sources = .ok s) ↔ Convertible (Setting.settled layers)) ∧
    (∀ s, load t sources = .ok s → s.ReadFrom (Setting.settled layers)) ∧
    (∀ sect key,
      (Setting.settled layers sect key = none ↔
        ∀ layer ∈ layers, Setting.said sect key layer = []) ∧
      ∀ w, Setting.lastSaid layers sect key = some w → Setting.IsPlain w →
        Setting.settled layers sect key = some w.2) ∧
    ((∀ layer ∈ layers, Setting.SaysOnce layer) →
      ∀ layers', List.Forall₂ Setting.Reordered layers layers' →
        Setting.settled layers' = Setting.settled layers) := by
  have hload : sources.layers t = .ok layers :=
    hlayers ▸ SettingsSources.layers_eq_ok hfirst hsecond hthird hown hnamed
  have hholds := Setting.holds_mergeLayers htables
  refine ⟨?_, fun s hs => ?_, fun sect key => ⟨Setting.settled_eq_none_iff, fun w => ?_⟩,
    fun honce layers' hreordered => Setting.settled_of_reordered hreordered honce⟩
  · simp only [load_eq_ok hload]
    exact exists_ofTable?_eq_some hholds
  · exact readFrom_of_ofTable? hholds ((load_eq_ok hload).mp hs)
  · exact Setting.settled_of_lastSaid

end Load

/-! ### Some layers -/

/-- The layer of a document of tables of strings. -/
theorem textLayer_documentText {tables : List Toml.TextTable}
    (hkeys : ∀ table ∈ tables, Name.isIdentifier table.name = true ∧
      (table.pairs.map (·.1)).all Name.isIdentifier = true ∧ (table.pairs.map (·.1)).Nodup)
    (hnames : (tables.map (·.name)).Nodup) :
    textLayer (Toml.documentText tables) =
      .ok (tables.map fun t => (t.name, .table (t.pairs.map fun e => (e.1, .text e.2)))) := by
  have hplain : ∀ table ∈ tables, table.Plain := by
    intro table htable
    obtain ⟨hname, hall, hnodup⟩ := hkeys table htable
    refine ⟨Toml.isBareKey_of_isIdentifier hname, fun e he => ?_, hnodup⟩
    exact Toml.isBareKey_of_isIdentifier (List.all_eq_true.mp hall e.1 (List.mem_map_of_mem he))
  rw [textLayer, Toml.parse?_documentText hplain hnames]
  simp only [Setting.ofTomlEntries_map, Setting.ofToml_value]

/-- Settings in the working folder. -/
def folderTables : List Toml.TextTable :=
  [⟨"generator", [("policy", "shared"), ("module_root", "crate")]⟩]

/-- Settings in a file that the user names.  Its policy of the run is none. -/
def namedTables : List Toml.TextTable :=
  [⟨"Generator", [("Template", "t.txt"), ("policy", "none")]⟩, ⟨"FAMILIES", [("Expr", "Shared")]⟩]

/-- The two files. -/
def layeredFiles : FileTree :=
  (FileTree.empty.put ["astgen.toml"] (.file (.text (Toml.documentText folderTables)))).put
    ["own.toml"] (.file (.text (Toml.documentText namedTables)))

/-- The file that is named, and a variable with a policy of the run. -/
def layeredSources : SettingsSources :=
  ⟨"user", some "own", [("HOME", "user"), ("Astgen__Generator__Policy", "Exclusive")]⟩

/-- Their layers. -/
def layeredLayers : List Layer := [
  [("generator", .table [("policy", .text "shared"), ("module_root", .text "crate")])],
  [], [], [],
  [("Generator", .table [("Template", .text "t.txt"), ("policy", .text "none")]),
    ("FAMILIES", .table [("Expr", .text "Shared")])],
  [("generator.policy", .text "Exclusive")]]

theorem optionalLayer_layeredFiles : optionalLayer layeredFiles "astgen.toml" =
    .ok [("generator", .table [("policy", .text "shared"), ("module_root", .text "crate")])] := by
  have htext : settingsText? layeredFiles "astgen.toml" =
      some (Toml.documentText folderTables) := by decide +kernel
  rw [optionalLayer, htext]
  exact textLayer_documentText (by decide) (by decide)

theorem requiredLayer_layeredFiles : requiredLayer layeredFiles "own" =
    .ok [("Generator", .table [("Template", .text "t.txt"), ("policy", .text "none")]),
      ("FAMILIES", .table [("Expr", .text "Shared")])] := by
  have htext : settingsText? layeredFiles "own" =
      some (Toml.documentText namedTables) := by decide +kernel
  rw [requiredLayer, htext]
  exact textLayer_documentText (by decide) (by decide)

theorem environmentLayer_layeredSources :
    Setting.environmentLayer layeredSources.environment =
      [("generator.policy", .text "Exclusive")] := by
  have hhome : Setting.variableKey? "HOME" = none := by decide +kernel
  have hkey : Setting.variableKey? "Astgen__Generator__Policy" = some "generator.policy" := by
    decide +kernel
  have hvalue : Setting.ofVariable "Exclusive" = .text "Exclusive" := by
    have hlower : Text.lowercase "Exclusive" = "exclusive" := by decide +kernel
    have hint : readInt64? "Exclusive".toList = none := by decide +kernel
    have hfloat : readFloat? "Exclusive".toList = none := by
      rw [← Option.isNone_iff_eq_none]
      decide +kernel
    simp only [Setting.ofVariable, hlower, hint, hfloat]
    rfl
  simp [Setting.environmentLayer, layeredSources, hhome, hkey, hvalue]

/-- What the layers say last about the run, and all that they say about families. -/
theorem said_layeredLayers :
    Setting.lastSaid layeredLayers "generator" "policy" = some ([], .text "Exclusive") ∧
    Setting.lastSaid layeredLayers "generator" "template" = some ([], .text "t.txt") ∧
    Setting.lastSaid layeredLayers "generator" "module_root" = some ([], .text "crate") ∧
    ∀ key, layeredLayers.flatMap (Setting.said "families" key) =
      if "expr" = key then [([], .text "Shared")] else [] := by
  have hsteps : Setting.keySteps "generator" = [.key "generator"] ∧
      Setting.keySteps "Generator" = [.key "Generator"] ∧
      Setting.keySteps "FAMILIES" = [.key "FAMILIES"] ∧
      Setting.keySteps "generator.policy" = [.key "generator", .key "policy"] := by decide +kernel
  have hsections : Text.lowercase "generator" = "generator" ∧
      Text.lowercase "Generator" = "generator" ∧ Text.lowercase "FAMILIES" = "families" := by
    decide +kernel
  have hkeys : Text.lowercase "policy" = "policy" ∧ Text.lowercase "Template" = "template" ∧
      Text.lowercase "module_root" = "module_root" ∧ Text.lowercase "Expr" = "expr" := by
    decide +kernel
  refine ⟨?_, ?_, ?_, fun key => ?_⟩
  · simp [layeredLayers, Setting.lastSaid, Setting.said, Setting.saidBy, hsteps, hsections, hkeys]
  · simp [layeredLayers, Setting.lastSaid, Setting.said, Setting.saidBy, hsteps, hsections, hkeys]
  · simp [layeredLayers, Setting.lastSaid, Setting.said, Setting.saidBy, hsteps, hsections, hkeys]
  · by_cases hkey : "expr" = key
    · simp [layeredLayers, Setting.said, Setting.saidBy, hsteps, hsections, hkeys, hkey]
    · simp [layeredLayers, Setting.said, Setting.saidBy, hsteps, hsections, hkeys, hkey]

/-- The file that is named sets a template and the policy of a family; its policy of the run, in
other letters, is overridden by that of the variable, and the path to modules comes from below. -/
theorem Settings.load_overrides_layeredFiles :
    layeredSources.layers layeredFiles = .ok layeredLayers ∧
    (∀ layer ∈ layeredLayers, Setting.keepsSections layer = true) ∧
    ∃ s, load layeredFiles layeredSources = .ok s ∧
      s.generator = ⟨.exclusive, some "t.txt", "crate"⟩ ∧
      ∀ key policy, (key, policy) ∈ s.families.entries ↔ key = "expr" ∧ policy = .shared := by
  have hsecond : optionalLayer layeredFiles ".astgen.toml" = .ok [] :=
    optionalLayer_of_findFile? (by decide +kernel)
  have hthird : optionalLayer layeredFiles "config/astgen.toml" = .ok [] :=
    optionalLayer_of_findFile? (by decide +kernel)
  have hown : userLayer layeredFiles (userSettingsPath layeredSources.userFolder) = .ok [] :=
    userLayer_of_findFile? (by decide +kernel)
  have hnamed : List.Forall₂ (fun path layer => requiredLayer layeredFiles path = .ok layer)
      layeredSources.explicit.toList _ := .cons requiredLayer_layeredFiles .nil
  have hlayers := SettingsSources.layers_eq_ok optionalLayer_layeredFiles hsecond hthird hown hnamed
  rw [environmentLayer_layeredSources] at hlayers
  have htables : ∀ layer ∈ layeredLayers, Setting.keepsSections layer = true := by decide +kernel
  obtain ⟨hload, hread, hvalues, -⟩ := load_overrides optionalLayer_layeredFiles hsecond hthird hown
    hnamed (by rw [environmentLayer_layeredSources]; rfl) htables
  -- every key has what the last layer sets
  have hplain : ∀ s : String, Setting.IsPlain ([], .text s) := fun s => ⟨rfl, fun _ h => nomatch h⟩
  obtain ⟨hlastPolicy, hlastTemplate, hlastRoot, hsaid⟩ := said_layeredLayers
  have hpolicy := (hvalues "generator" "policy").2 _ hlastPolicy (hplain _)
  have htemplate := (hvalues "generator" "template").2 _ hlastTemplate (hplain _)
  have hroot := (hvalues "generator" "module_root").2 _ hlastRoot (hplain _)
  have hfamily : ∀ key v, Setting.settled layeredLayers "families" key = some v ↔
      "expr" = key ∧ .text "Shared" = v := by
    intro key v
    rw [Setting.settled, hsaid]
    by_cases hkey : "expr" = key
    · rw [if_pos hkey]
      simp [hkey, Setting.updatedAll, Setting.updated]
    · rw [if_neg hkey]
      simp [hkey, Setting.updatedAll]
  have hexclusive : Setting.policy? (.text "Exclusive") = some .exclusive := by decide +kernel
  have hshared : Setting.policy? (.text "Shared") = some .shared := by decide +kernel
  obtain ⟨s, hs⟩ : ∃ s, load layeredFiles layeredSources = .ok s := by
    refine hload.mpr ⟨fun v hv => ?_, fun v hv => ?_, fun v hv => ?_, fun key v hv => ?_⟩
    · obtain rfl := Option.some.inj (hpolicy.symm.trans hv)
      rw [hexclusive]
      rfl
    · obtain rfl := Option.some.inj (htemplate.symm.trans hv)
      rfl
    · obtain rfl := Option.some.inj (hroot.symm.trans hv)
      rfl
    · obtain ⟨-, rfl⟩ := (hfamily key v).mp hv
      rw [hshared]
      rfl
  obtain ⟨hreadPolicy, hreadTemplate, hreadRoot, -, hreadFamilies⟩ := hread s hs
  rw [hpolicy, Option.elim_some, hexclusive] at hreadPolicy
  rw [htemplate, Option.elim_some] at hreadTemplate
  rw [hroot, Option.elim_some] at hreadRoot
  refine ⟨hlayers, htables, s, hs, ?_, fun key policy => ?_⟩
  · obtain ⟨⟨policy, template, root⟩, families⟩ := s
    cases hreadPolicy
    cases hreadTemplate
    cases hreadRoot
    rfl
  · rw [hreadFamilies]
    constructor
    · rintro ⟨v, hv, hvpolicy⟩
      obtain ⟨rfl, rfl⟩ := (hfamily key v).mp hv
      exact ⟨rfl, Option.some.inj (hvpolicy.symm.trans hshared)⟩
    · rintro ⟨rfl, rfl⟩
      exact ⟨_, (hfamily _ _).mpr ⟨rfl, rfl⟩, hshared⟩

/-- Two files that set the policy of the run to a table. -/
def tableFiles : FileTree :=
  (FileTree.empty.put ["astgen.toml"] (.file (.text "[generator.policy]\nshared = 1\n"))).put
    [".astgen.toml"] (.file (.text "[generator.policy]\nexclusive = 1\n"))

/-- Nothing but the usual places. -/
def tableSources : SettingsSources := ⟨"user", none, []⟩

/-- The layer of such a file. -/
def tableLayer (name : String) : Layer :=
  [("generator", .table [("policy", .table [(name, .scalar (.integer 1))])])]

/-- The layers of the two files; the other places have none. -/
def tableLayers : List Layer :=
  [tableLayer "shared", tableLayer "exclusive", [], [], []]

theorem layers_tableFiles : tableSources.layers tableFiles = .ok tableLayers := by
  have hfirst : optionalLayer tableFiles "astgen.toml" = .ok (tableLayer "shared") := by
    have htext : settingsText? tableFiles "astgen.toml" =
        some "[generator.policy]\nshared = 1\n" := by decide +kernel
    rw [optionalLayer, htext]
    cbv
  have hsecond : optionalLayer tableFiles ".astgen.toml" = .ok (tableLayer "exclusive") := by
    have htext : settingsText? tableFiles ".astgen.toml" =
        some "[generator.policy]\nexclusive = 1\n" := by decide +kernel
    rw [optionalLayer, htext]
    cbv
  have hthird : optionalLayer tableFiles "config/astgen.toml" = .ok [] :=
    optionalLayer_of_findFile? (by decide +kernel)
  have hown : userLayer tableFiles (userSettingsPath tableSources.userFolder) = .ok [] :=
    userLayer_of_findFile? (by decide +kernel)
  have hnamed : List.Forall₂ (fun path layer => requiredLayer tableFiles path = .ok layer)
      tableSources.explicit.toList [] := .nil
  exact SettingsSources.layers_eq_ok hfirst hsecond hthird hown hnamed

theorem said_tableLayer (sect key name : String) :
    Setting.said sect key (tableLayer name) =
      if sect = "generator" ∧ key = "policy" then [([], .table [(name, .scalar (.integer 1))])]
      else [] := by
  have hsteps : Setting.keySteps "generator" = [.key "generator"] := by decide +kernel
  have hlower : Text.lowercase "generator" = "generator" ∧ Text.lowercase "policy" = "policy" := by
    decide +kernel
  by_cases hsect : "generator" = sect
  · by_cases hkey : "policy" = key
    · subst hsect hkey
      simp [Setting.said, Setting.saidBy, tableLayer, hsteps, hlower]
    · simp [Setting.said, Setting.saidBy, tableLayer, hsteps, hlower, hkey, Ne.symm hkey]
  · simp [Setting.said, Setting.saidBy, tableLayer, hsteps, hlower, hsect, Ne.symm hsect]

/-- **It is not always the last layer that decides**: a table with one key can be read as the
policy of this name, but on top of another such table it makes a table with two. -/
theorem Settings.not_forall_convertible_lastSaid :
    ¬ ∀ (t : FileTree) (sources : SettingsSources) (layers : List Layer),
      sources.layers t = .ok layers → (∀ layer ∈ layers, Setting.keepsSections layer = true) →
      ((∃ s, load t sources = .ok s) ↔
        Convertible fun sect key => (Setting.lastSaid layers sect key).map (·.2)) := by
  intro h
  have htables : ∀ layer ∈ tableLayers, Setting.keepsSections layer = true := by decide +kernel
  -- what the layer on top sets could be read
  have hlast : ∀ sect key, (Setting.lastSaid tableLayers sect key).map (·.2) =
      if sect = "generator" ∧ key = "policy" then
        some (.table [("exclusive", .scalar (.integer 1))]) else none := by
    intro sect key
    simp only [Setting.lastSaid, tableLayers, List.flatMap_cons, said_tableLayer]
    split_ifs <;> rfl
  have hconvertible : Convertible fun sect key =>
      (Setting.lastSaid tableLayers sect key).map (·.2) := by
    simp only [hlast]
    refine ⟨fun v hv => ?_, fun v hv => ?_, fun v hv => ?_, fun key v hv => ?_⟩
    · obtain rfl := Option.some.inj hv
      decide +kernel
    · simp at hv
    · simp at hv
    · simp at hv
  -- but what the layers come to cannot
  have hsettled : Setting.settled tableLayers "generator" "policy" =
      some (.table [("shared", .scalar (.integer 1)), ("exclusive", .scalar (.integer 1))]) := by
    have hlower : Text.lowercase "shared" = "shared" ∧
        Text.lowercase "exclusive" = "exclusive" := by decide +kernel
    have hsaid : tableLayers.flatMap (Setting.said "generator" "policy") =
        [([], .table [("shared", .scalar (.integer 1))]),
          ([], .table [("exclusive", .scalar (.integer 1))])] := by
      simp only [tableLayers, List.flatMap_cons, said_tableLayer]
      rfl
    rw [Setting.settled, hsaid]
    simp [Setting.updatedAll, Setting.updated, Setting.assignAll, Setting.assign, Setting.put,
      Setting.entries, hlower]
  obtain ⟨s, hs⟩ := (h _ _ _ layers_tableFiles htables).mpr hconvertible
  have hmerged := (exists_ofTable?_eq_some (Setting.holds_mergeLayers htables)).mp
    ⟨s, (load_eq_ok layers_tableFiles).mp hs⟩
  cases hmerged.policy _ hsettled

end TreeSmith
