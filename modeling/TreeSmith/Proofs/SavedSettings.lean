import TreeSmith.Proofs.Layers
import TreeSmith.Proofs.Policies
import TreeSmith.Proofs.Paths
import TreeSmith.Settings.Load

/-!
# Saved settings are loaded again

Settings are saved as a document of two tables.  Loaded as the file that the user names,
with no other source around, it gives the same settings for every family.  The keys of the
families come back in lower case, and so the policies are found by the names that differ
from them in case: this works as long as no two keys differ only in case.

## Main definitions

* `Settings.tables` — the two tables.
* `FamilyPolicies.DifferIgnoringCase` — no two keys differ only in case.
* `SettingsSources.NoDefaults` — there are no settings in the usual places.

## Main results

* `Settings.ofTable?_tables` — the settings of the two tables.
* `FamilyPolicies.forFamily?_eq_some` — how the policy of a family is found.
* `FileTree.readAt_of_writeAt` — a file holds what was written.
* `Settings.load_saved` — **saved settings are loaded again.**
-/

namespace TreeSmith

/-! ### The two tables -/

/-- The settings that are not for single families, as texts by their keys. -/
def GeneratorSettings.pairs (g : GeneratorSettings) : List (String × String) :=
  ("policy", g.policy.name) ::
    ((g.template.map fun path => ("template", path)).toList ++ [("module_root", g.moduleRoot)])

/-- The policies of single families, as texts by their keys. -/
def FamilyPolicies.pairs (p : FamilyPolicies) : List (String × String) :=
  p.entries.map fun e => (e.1, e.2.name)

/-- The tables of settings. -/
def Settings.tables (s : Settings) : List Toml.TextTable :=
  [⟨"generator", s.generator.pairs⟩, ⟨"families", s.families.pairs⟩]

theorem GeneratorSettings.saved_eq_text (g : GeneratorSettings) :
    g.saved = (⟨"generator", g.pairs⟩ : Toml.TextTable).text := by
  obtain ⟨policy, template, moduleRoot⟩ := g
  cases template with
  | none => simp [saved, pairs, Toml.TextTable.text, String.join_cons, String.append_assoc]
  | some path => simp [saved, pairs, Toml.TextTable.text, String.join_cons, String.append_assoc]

theorem FamilyPolicies.saved_eq_text (p : FamilyPolicies) :
    p.saved = (⟨"families", p.pairs⟩ : Toml.TextTable).text := by
  simp only [saved, pairs, Toml.TextTable.text, List.map_map]
  rfl

theorem Settings.saved_eq_documentText (s : Settings) : s.saved = Toml.documentText s.tables := by
  rw [saved, GeneratorSettings.saved_eq_text, FamilyPolicies.saved_eq_text]
  rfl

theorem lowercase_of_isIdentifier {name : String} (h : Name.isIdentifier name = true) :
    Text.lowercase name = name.toLower :=
  Text.lowercase_of_ascii (Toml.isBareKey_of_isIdentifier h).ascii

namespace FamilyPolicies

/-- No two keys differ only in the case of letters. -/
def DifferIgnoringCase (p : FamilyPolicies) : Prop :=
  p.entries.Pairwise fun a b => Text.sameIgnoringCase a.1 b.1 = false

theorem differIgnoringCase_iff {p : FamilyPolicies} : p.DifferIgnoringCase ↔
    p.entries.Pairwise fun a b => a.1.toList.map Char.toLower ≠ b.1.toList.map Char.toLower := by
  refine List.Pairwise.iff fun a b => ?_
  rw [Text.sameIgnoringCase, beq_eq_false_iff_ne, ne_eq, Text.toLower_eq_iff]

instance (p : FamilyPolicies) : Decidable p.DifferIgnoringCase :=
  decidable_of_iff' _ differIgnoringCase_iff

theorem DifferIgnoringCase.nodup {p : FamilyPolicies} (h : p.DifferIgnoringCase) :
    (p.entries.map (·.1.toLower)).Nodup := by
  rw [List.Nodup, List.pairwise_map]
  refine h.imp fun hab heq => ?_
  rw [Text.sameIgnoringCase, beq_eq_false_iff_ne] at hab
  exact hab heq

theorem DifferIgnoringCase.eq_of_toLower_eq {p : FamilyPolicies} (h : p.DifferIgnoringCase)
    {a b : String × Ownership} (ha : a ∈ p.entries) (hb : b ∈ p.entries)
    (heq : a.1.toLower = b.1.toLower) : a = b :=
  List.inj_on_of_nodup_map h.nodup ha hb heq

end FamilyPolicies

section Tables

variable {s : Settings}

theorem GeneratorSettings.key_mem (g : GeneratorSettings) :
    ∀ e ∈ g.pairs, e.1 ∈ ["policy", "template", "module_root"] := by
  obtain ⟨policy, template, moduleRoot⟩ := g
  cases template <;> simp [pairs]

theorem GeneratorSettings.isIdentifier_pairs (g : GeneratorSettings) :
    ∀ e ∈ g.pairs, Name.isIdentifier e.1 = true := by
  have hkeys : ∀ key ∈ ["policy", "template", "module_root"], Name.isIdentifier key = true := by
    decide
  exact fun e he => hkeys e.1 (g.key_mem e he)

theorem GeneratorSettings.lowercase_pairs (g : GeneratorSettings) :
    (g.pairs.map fun e => (Text.lowercase e.1, Setting.text e.2)) =
      g.pairs.map fun e => (e.1, Setting.text e.2) := by
  have hkeys : ∀ key ∈ ["policy", "template", "module_root"], Text.lowercase key = key := by
    decide +kernel
  refine List.map_congr_left fun e he => ?_
  rw [hkeys e.1 (g.key_mem e he)]

theorem GeneratorSettings.nodup_pairs (g : GeneratorSettings) : (g.pairs.map (·.1)).Nodup := by
  obtain ⟨policy, template, moduleRoot⟩ := g
  cases template <;> simp [pairs]

/-- The two tables are plain when the families are identifiers. -/
theorem Settings.plain_tables (hkeys : ∀ e ∈ s.families.entries, Name.isIdentifier e.1 = true) :
    ∀ table ∈ s.tables, table.Plain := by
  have hgenerator : Name.isIdentifier "generator" = true := by decide
  have hfamilies : Name.isIdentifier "families" = true := by decide
  intro table htable
  simp only [tables, List.mem_cons, List.not_mem_nil, or_false] at htable
  rcases htable with rfl | rfl
  · exact {
      name := Toml.isBareKey_of_isIdentifier hgenerator
      keys := fun e he => Toml.isBareKey_of_isIdentifier (s.generator.isIdentifier_pairs e he)
      nodup := s.generator.nodup_pairs }
  · refine ⟨Toml.isBareKey_of_isIdentifier hfamilies, ?_, ?_⟩
    · intro e he
      obtain ⟨entry, hentry, rfl⟩ := List.mem_map.mp he
      exact Toml.isBareKey_of_isIdentifier (hkeys entry hentry)
    · rw [FamilyPolicies.pairs, List.map_map, List.Nodup, List.pairwise_map]
      refine s.families.sorted.imp fun {a b} hlt heq => ?_
      have hsame : a.1 = b.1 := heq
      rw [hsame] at hlt
      exact String.lt_irrefl b.1 hlt

theorem Settings.nodup_lowercase_tables
    (hkeys : ∀ e ∈ s.families.entries, Name.isIdentifier e.1 = true)
    (hdiffer : s.families.DifferIgnoringCase) :
    ∀ table ∈ s.tables, (table.pairs.map fun e => Text.lowercase e.1).Nodup := by
  intro table htable
  simp only [tables, List.mem_cons, List.not_mem_nil, or_false] at htable
  rcases htable with rfl | rfl
  · have hsame := congrArg (List.map (·.1)) s.generator.lowercase_pairs
    simp only [List.map_map, Function.comp_def] at hsame
    rw [hsame]
    exact s.generator.nodup_pairs
  · have hlower : (s.families.pairs.map fun e => Text.lowercase e.1) =
        s.families.entries.map (·.1.toLower) := by
      rw [FamilyPolicies.pairs, List.map_map]
      exact List.map_congr_left fun e he => lowercase_of_isIdentifier (hkeys e he)
    rw [hlower]
    exact hdiffer.nodup

end Tables

/-! ### From the tables to settings -/

theorem Setting.policy?_name (p : Ownership) : Setting.policy? (.text p.name) = some p := by
  cases p <;> decide +kernel

theorem GeneratorSettings.ofSetting?_pairs (g : GeneratorSettings) :
    ofSetting? (.table (g.pairs.map fun e => (Text.lowercase e.1, .text e.2))) = some g := by
  rw [g.lowercase_pairs]
  obtain ⟨policy, template, moduleRoot⟩ := g
  cases template with
  | none =>
    simp [ofSetting?, ofParts?, pairs, Setting.find?, settingOr, Setting.policy?_name,
      Setting.text?]
  | some path =>
    simp [ofSetting?, ofParts?, pairs, Setting.find?, settingOr, Setting.policy?_name,
      Setting.text?, Setting.optionalText?]

theorem FamilyPolicies.ofSetting?_pairs (p : FamilyPolicies) :
    ofSetting? (.table (p.pairs.map fun e => (Text.lowercase e.1, .text e.2))) =
      some (.ofList (p.entries.map fun e => (Text.lowercase e.1, e.2))) := by
  have hread : ∀ entries : List (String × Ownership),
      ((entries.map fun e => (e.1, e.2.name)).map fun e =>
          (Text.lowercase e.1, Setting.text e.2)).mapM (fun e => do
            let policy ← e.2.policy?
            return (e.1, policy)) =
        some (entries.map fun e => (Text.lowercase e.1, e.2)) := by
    intro entries
    induction entries with
    | nil => rfl
    | cons e entries ih =>
      rw [List.map_cons, List.map_cons, List.mapM_cons, ih, Setting.policy?_name]
      rfl
  rw [ofSetting?, pairs]
  exact congrArg (Option.bind · _) (hread p.entries)

/-- The settings of the two tables, with the keys of families in lower case. -/
theorem Settings.ofTable?_tables (s : Settings) :
    Settings.ofTable? (s.tables.map Toml.TextTable.layered) =
      some ⟨s.generator, .ofList (s.families.entries.map fun e => (Text.lowercase e.1, e.2))⟩ := by
  have hgenerator : Text.lowercase "generator" = "generator" := by decide +kernel
  have hfamilies : Text.lowercase "families" = "families" := by decide +kernel
  simp [ofTable?, tables, Toml.TextTable.layered, hgenerator, hfamilies, Setting.find?, settingOr,
    GeneratorSettings.ofSetting?_pairs, FamilyPolicies.ofSetting?_pairs]

/-! ### The policy of a family -/

theorem mem_putPolicy_iff {key : String} {policy : Ownership} :
    ∀ {entries : List (String × Ownership)}, key ∉ entries.map (·.1) →
      ∀ e, e ∈ putPolicy key policy entries ↔ e = (key, policy) ∨ e ∈ entries := by
  intro entries
  induction entries with
  | nil =>
    intro _ e
    simp [putPolicy]
  | cons entry more ih =>
    intro h e
    rw [List.map_cons, List.mem_cons, not_or] at h
    rw [putPolicy]
    split_ifs with hlt heq
    · rw [List.mem_cons]
    · exact absurd heq h.1
    · rw [List.mem_cons, ih h.2, List.mem_cons]
      tauto

namespace FamilyPolicies

/-- Policies under different keys all stay. -/
theorem mem_foldl_insert : ∀ {entries : List (String × Ownership)} {p : FamilyPolicies},
    (p.entries.map (·.1) ++ entries.map (·.1)).Nodup →
      ∀ e, e ∈ (entries.foldl (fun p e => p.insert e.1 e.2) p).entries ↔
        e ∈ p.entries ∨ e ∈ entries := by
  intro entries
  induction entries with
  | nil =>
    intro p _ e
    simp
  | cons entry more ih =>
    intro p h e
    rw [List.map_cons, List.nodup_append, List.nodup_cons] at h
    obtain ⟨hp, ⟨hentry, hmore⟩, happart⟩ := h
    have hnew : entry.1 ∉ p.entries.map (·.1) := fun hmem =>
      happart _ hmem _ List.mem_cons_self rfl
    have hput : ∀ e, e ∈ (p.insert entry.1 entry.2).entries ↔ e = entry ∨ e ∈ p.entries :=
      mem_putPolicy_iff hnew
    -- the keys that are to come are still new
    have hnext : ((p.insert entry.1 entry.2).entries.map (·.1) ++ more.map (·.1)).Nodup := by
      rw [List.nodup_append]
      refine ⟨?_, hmore, ?_⟩
      · rw [List.Nodup, List.pairwise_map]
        refine (p.insert entry.1 entry.2).sorted.imp fun {a b} hlt heq => ?_
        rw [heq] at hlt
        exact String.lt_irrefl b.1 hlt
      · intro key hkey key' hkey' heq
        obtain ⟨e', he', rfl⟩ := List.mem_map.mp hkey
        rcases (hput e').mp he' with rfl | he'
        · exact hentry (heq ▸ hkey')
        · exact happart _ (List.mem_map_of_mem he') _ (List.mem_cons_of_mem _ hkey') heq
    rw [List.foldl_cons, ih hnext, hput, List.mem_cons]
    tauto

/-- The policy under the name of a family, or under one that differs from it in case. -/
def forFamily? (p : FamilyPolicies) (family : String) : Option Ownership :=
  (p.atKey? family).or (p.likeKey? family)

/-- When no two keys differ only in case, the case of letters plays no part. -/
theorem forFamily?_eq_some {p : FamilyPolicies} {family : String} {policy : Ownership}
    (h : ∀ a ∈ p.entries, ∀ b ∈ p.entries, a.1.toLower = b.1.toLower → a = b) :
    p.forFamily? family = some policy ↔
      ∃ key, (key, policy) ∈ p.entries ∧ key.toLower = family.toLower := by
  rw [forFamily?, Option.or_eq_some_iff]
  constructor
  · rintro (hexact | ⟨-, hlike⟩)
    · exact ⟨family, atKey?_eq_some.mp hexact, rfl⟩
    · obtain ⟨key, hmem, hkey, -⟩ := likeKey?_eq_some.mp hlike
      exact ⟨key, hmem, hkey⟩
  · rintro ⟨key, hmem, hkey⟩
    cases hexact : p.atKey? family with
    | some other =>
      -- the entry under the exact name is the only one
      have hsame := h _ hmem _ (atKey?_eq_some.mp hexact) hkey
      rw [Prod.mk.injEq] at hsame
      exact .inl (by rw [hsame.2])
    | none =>
      refine .inr ⟨rfl, likeKey?_eq_some.mpr ⟨key, hmem, hkey, fun e he heq hlt => ?_⟩⟩
      rw [h e he _ hmem (heq.trans hkey.symm)] at hlt
      exact String.lt_irrefl key hlt

/-- The policies of families survive the loss of case. -/
theorem forFamily?_ofList_lowercase {p : FamilyPolicies}
    (hkeys : ∀ e ∈ p.entries, Name.isIdentifier e.1 = true) (hdiffer : p.DifferIgnoringCase)
    (family : String) :
    (ofList (p.entries.map fun e => (Text.lowercase e.1, e.2))).forFamily? family =
      p.forFamily? family := by
  have hlower : (p.entries.map fun e => (Text.lowercase e.1, e.2)) =
      p.entries.map fun e => (e.1.toLower, e.2) :=
    List.map_congr_left fun e he => by rw [lowercase_of_isIdentifier (hkeys e he)]
  have hmem : ∀ e, e ∈ (ofList (p.entries.map fun e => (e.1.toLower, e.2))).entries ↔
      e ∈ p.entries.map fun e => (e.1.toLower, e.2) := by
    intro e
    have hnodup : (empty.entries.map (·.1) ++
        (p.entries.map fun e => (e.1.toLower, e.2)).map (·.1)).Nodup := by
      simpa [empty, Function.comp_def] using hdiffer.nodup
    simpa [empty, ofList] using mem_foldl_insert hnodup e
  rw [hlower]
  refine Option.ext fun policy => ?_
  rw [forFamily?_eq_some, forFamily?_eq_some fun a ha b hb => hdiffer.eq_of_toLower_eq ha hb]
  · constructor
    · rintro ⟨key, hentry, hkey⟩
      obtain ⟨e, he, heq⟩ := List.mem_map.mp ((hmem _).mp hentry)
      cases heq
      rw [Text.toLower_toLower] at hkey
      exact ⟨e.1, he, hkey⟩
    · rintro ⟨key, hentry, hkey⟩
      refine ⟨key.toLower, (hmem _).mpr (List.mem_map.mpr ⟨_, hentry, rfl⟩), ?_⟩
      rw [Text.toLower_toLower, hkey]
  · intro a ha b hb heq
    obtain ⟨x, hx, rfl⟩ := List.mem_map.mp ((hmem a).mp ha)
    obtain ⟨y, hy, rfl⟩ := List.mem_map.mp ((hmem b).mp hb)
    rw [Text.toLower_toLower, Text.toLower_toLower] at heq
    rw [hdiffer.eq_of_toLower_eq hx hy heq]

end FamilyPolicies

/-! ### Loading -/

namespace FileTree

theorem write_eq_ok {t t' : FileTree} {loc : Location} {content : Content} :
    t.write loc content = .ok t' ↔ t.isFolder loc.dropLast = true ∧ t.isFolder loc = false ∧
      t' = t.put loc (.file content) := by
  unfold write checkParent
  cases t.isFolder loc.dropLast <;> cases t.isFolder loc <;> simp [eq_comm]

/-- A file holds what was written. -/
theorem readAt_of_writeAt {t t' : FileTree} {path text : String}
    (h : t.writeAt path (.text text) = .ok t') :
    t'.isFileAt path = true ∧ t'.readAt path = .ok text := by
  rw [writeAt, bind_eq_ok] at h
  obtain ⟨loc, hresolve, hwrite⟩ := h
  obtain ⟨-, hfolder, rfl⟩ := write_eq_ok.mp hwrite
  have hloc : loc ≠ [] := by rintro rfl; cases hfolder
  have hget : (t.put loc (.file (.text text))).get? loc = some (.file (.text text)) := by
    rw [get?_put t hloc, if_pos rfl]
  -- no folder comes or goes, so the path leads to the same place
  have hresolve' : (t.put loc (.file (.text text))).resolve path = .ok loc := by
    rw [resolve, walk] at hresolve ⊢
    split at hresolve
    · cases hresolve
    · exact (sameFolders_put hloc hfolder (.text text)).foldlM_eq_ok hresolve
  have hfind : (t.put loc (.file (.text text))).find loc = .ok (.file (.text text)) := by
    rw [find, hget]
  constructor
  · rw [isFileAt, findAt, hresolve', ok_bind, hfind]
  · rw [readAt, hresolve', ok_bind, read, readContent, hfind]

end FileTree

/-- There are no settings in the usual places. -/
def SettingsSources.NoDefaults (sources : SettingsSources) (t : FileTree) : Prop :=
  ∀ path ∈ settingsPaths ++ [userSettingsPath sources.userFolder], findFile? t path = none

instance (sources : SettingsSources) (t : FileTree) : Decidable (sources.NoDefaults t) :=
  inferInstanceAs (Decidable (∀ path ∈ _, _))

section Load

variable {t : FileTree} {path : String} {sources : SettingsSources}

theorem optionalLayer_of_findFile? (h : findFile? t path = none) :
    optionalLayer t path = .ok [] := by
  rw [optionalLayer, settingsText?, h]
  rfl

theorem userLayer_of_findFile? (h : findFile? t path = none) : userLayer t path = .ok [] := by
  rw [userLayer]
  split
  · exact optionalLayer_of_findFile? h
  · rfl

theorem environmentLayer_eq_nil {environment : List (String × String)}
    (h : ∀ e ∈ environment, Setting.variableKey? e.1 = none) :
    Setting.environmentLayer environment = [] := by
  rw [Setting.environmentLayer, List.filterMap_eq_nil_iff]
  rintro ⟨name, value⟩ he
  have hkey : Setting.variableKey? name = none := h (name, value) he
  simp only [hkey, Option.map_none]

theorem withoutMark_saved (s : Settings) : withoutMark s.saved = s.saved := by
  obtain ⟨cs, hcs⟩ : ∃ cs, s.saved.toList = '[' :: cs :=
    ⟨_, by simp [Settings.saved, GeneratorSettings.saved]; rfl⟩
  rw [withoutMark, hcs]
  rfl

/-- With nothing in the usual places, the only layer is that of the file that the user
names. -/
theorem load_of_noDefaults {layer : List (String × Setting)} (hdefaults : sources.NoDefaults t)
    (hexplicit : sources.explicit = some path)
    (henvironment : ∀ e ∈ sources.environment, Setting.variableKey? e.1 = none)
    (hlayer : requiredLayer t path = .ok layer) :
    Settings.load t sources =
      match Settings.ofTable? (Setting.addLayer (.table []) layer).entries with
      | some settings => .ok settings
      | none => .error .wrongValue := by
  have husual : ∀ p ∈ settingsPaths, optionalLayer t p = .ok [] := fun p hp =>
    optionalLayer_of_findFile? (hdefaults p (List.mem_append_left _ hp))
  have hown : userLayer t (userSettingsPath sources.userFolder) = .ok [] :=
    userLayer_of_findFile? (hdefaults _ (by simp))
  have hlayers : sources.layers t = .ok [[], [], [], [], layer, []] := by
    have hpaths : settingsPaths.mapM (optionalLayer t) = .ok [[], [], []] := by
      simp only [settingsPaths, List.forall_mem_cons] at husual
      obtain ⟨h₁, h₂, h₃, -⟩ := husual
      simp only [settingsPaths, List.mapM_cons, List.mapM_nil, h₁, h₂, h₃]
      rfl
    rw [SettingsSources.layers, hpaths, ok_bind, hown, ok_bind, hexplicit,
      environmentLayer_eq_nil henvironment]
    simp only [Option.toList_some, List.mapM_cons, List.mapM_nil, hlayer]
    rfl
  rw [Settings.load, hlayers, ok_bind]
  rfl

/-- Settings whose families are identifiers that differ in more than case are loaded again
after they were saved: the settings of the run are the same, and so is the policy of every
family. -/
theorem Settings.load_saved {s : Settings} {t t' : FileTree}
    (hkeys : ∀ e ∈ s.families.entries, Name.isIdentifier e.1 = true)
    (hdiffer : s.families.DifferIgnoringCase)
    (hname : (Text.split '/' path).getLast?.any hasSettingsExtension = true)
    (hsave : t.writeAt path (.text s.saved) = .ok t')
    (hexplicit : sources.explicit = some path) (hdefaults : sources.NoDefaults t')
    (henvironment : ∀ e ∈ sources.environment, Setting.variableKey? e.1 = none) :
    ∃ loaded, Settings.load t' sources = .ok loaded ∧ loaded.generator = s.generator ∧
      ∀ family, loaded.policyFor family = s.policyFor family := by
  obtain ⟨hfile, hread⟩ := FileTree.readAt_of_writeAt hsave
  have hplain := Settings.plain_tables hkeys
  have hnames : (s.tables.map (·.name)).Nodup := by simp [Settings.tables]
  have hlayer : requiredLayer t' path =
      .ok (Setting.ofTomlEntries (s.tables.map fun t => (t.name, t.value))) := by
    have htext : settingsText? t' path = some s.saved := by
      rw [settingsText?, findFile?, if_pos hfile, if_pos hname, Option.bind_some, hread]
      exact congrArg some (withoutMark_saved s)
    rw [requiredLayer, htext]
    dsimp only
    rw [textLayer, Settings.saved_eq_documentText, Toml.parse?_documentText hplain hnames]
  have hlowerNames : ((([] : List (String × Setting)).map (·.1)) ++
      s.tables.map fun t => Text.lowercase t.name).Nodup := by
    have hfixed : (["generator", "families"].map Text.lowercase).Nodup := by decide +kernel
    exact hfixed
  have hmerged := Setting.addLayer_tables hplain (Settings.nodup_lowercase_tables hkeys hdiffer)
    hlowerNames
  refine ⟨⟨s.generator, .ofList (s.families.entries.map fun e => (Text.lowercase e.1, e.2))⟩, ?_,
    rfl, fun family => ?_⟩
  · rw [load_of_noDefaults hdefaults hexplicit henvironment hlayer, hmerged, Setting.entries,
      List.nil_append, Settings.ofTable?_tables]
  · have hfamily := FamilyPolicies.forFamily?_ofList_lowercase hkeys hdiffer family
    exact congrArg (·.getD s.generator.policy) hfamily

end Load

/-- Settings with texts that need each kind of quotes, escapes and line breaks. -/
def quotedSettings : Settings :=
  ⟨⟨.shared, some "it's\n\"\"\"\\ \x01\r", "say \"crate\" 'ast'"⟩,
    .ofList [("Stmt", .exclusive), ("eXpr_2", .shared)]⟩

/-- They are saved into a folder with nothing else in it and loaded again. -/
theorem Settings.load_saved_quotedSettings :
    let sources : SettingsSources := ⟨"user", some "saved.toml", [("HOME", "user")]⟩
    let saved := FileTree.empty.put ["saved.toml"] (.file (.text quotedSettings.saved))
    ((∀ e ∈ quotedSettings.families.entries, Name.isIdentifier e.1 = true) ∧
      quotedSettings.families.DifferIgnoringCase ∧
      FileTree.empty.writeAt "saved.toml" (.text quotedSettings.saved) = .ok saved ∧
      sources.NoDefaults saved) ∧
    ∃ loaded, Settings.load saved sources = .ok loaded ∧
      loaded.generator = quotedSettings.generator ∧
      ∀ family, loaded.policyFor family = quotedSettings.policyFor family := by
  intro sources saved
  have hkeys : ∀ e ∈ quotedSettings.families.entries, Name.isIdentifier e.1 = true := by decide
  have hdiffer : quotedSettings.families.DifferIgnoringCase := by decide
  have hsave : FileTree.empty.writeAt "saved.toml" (.text quotedSettings.saved) = .ok saved := by
    rfl
  have hdefaults : sources.NoDefaults saved := by decide +kernel
  refine ⟨⟨hkeys, hdiffer, hsave, hdefaults⟩, ?_⟩
  exact Settings.load_saved hkeys hdiffer (by decide) hsave rfl hdefaults (by decide +kernel)

end TreeSmith
