import TreeSmith.Proofs.Persist

/-!
# What the targets hold

Putting artifacts into a folder takes it to a state in which a target holds either the
text that was staged for it or what it held once the folder was there.  A failure on the
way does not bring the replaced targets back, so it leaves all targets as they were only
when each of those held its new text before.

## Main results

* `holds?_persist` — what a target holds afterwards.
* `targets_kept_iff` — when a failure leaves every target as it was.
* `not_forall_targets_kept` — a failure that does not.
-/

namespace TreeSmith

variable {t u v : FileTree} {path : String} {a : Artifact} {artifacts : List Artifact}
  {result : Except FileFault (List Location)}

namespace FileTree

/-- A target holds what stands at its place, if its name leads anywhere. -/
theorem holds?_pathIn {folder : Folder} (ha : Name.isIdentifier a.family = true)
    (hpath : (Text.split '/' folder.path).foldlM t.step [] = .ok folder.location)
    (hloc : t.isFolder folder.location = true) :
    t.holds? (a.pathIn folder.path) =
      if nameFault? folder.path a.fileName = none then t.get? (folder.target a) else none := by
  rw [holds?_eq_bind, Artifact.pathIn,
    resolve_of_plainName (Artifact.plainName_fileName ha) hpath hloc, namePlace]
  cases nameFault? folder.path a.fileName with
  | some fault => rfl
  | none => rfl

end FileTree

/-- Nothing is replaced, or everything was staged and what can be moved is replaced. -/
theorem replaced_cases (t : FileTree) (path : String) (artifacts : List Artifact) :
    replaced t path artifacts = [] ∨ ∃ (folder : Folder) (v : FileTree), folder.path = path ∧
      (∀ a ∈ artifacts, folder.stageFault? v a = none) ∧
      replaced t path artifacts = folder.movable v [] artifacts := by
  cases hmake : t.makeFolders path with
  | mk v made =>
    cases made with
    | error fault => exact .inl (by simp only [replaced, hmake])
    | ok loc =>
      simp only [replaced, hmake]
      split
      · exact .inl rfl
      · next hfault =>
        rw [Option.not_isSome_iff_eq_none, List.findSome?_eq_none_iff] at hfault
        exact .inr ⟨⟨path, loc⟩, v, rfl, hfault, rfl⟩

theorem prefix_replaced (t : FileTree) (path : String) (artifacts : List Artifact) :
    replaced t path artifacts <+: artifacts := by
  rcases replaced_cases t path artifacts with hnone | ⟨folder, v, -, -, hmoved⟩
  · rw [hnone]; exact List.nil_prefix
  · rw [hmoved]; exact Folder.prefix_movable _ _

theorem nodup_replaced (t : FileTree) (path : String) (artifacts : List Artifact) :
    ((replaced t path artifacts).map (·.fileName)).Nodup := by
  rcases replaced_cases t path artifacts with hnone | ⟨folder, v, -, -, hmoved⟩
  · rw [hnone]; exact List.nodup_nil
  · rw [hmoved]; exact Folder.nodup_movable _ _

/-- A target that is replaced has a name that leads somewhere. -/
theorem nameFault?_of_mem_replaced (hnames : ∀ a ∈ artifacts, Name.isIdentifier a.family = true)
    (ha : a ∈ replaced t path artifacts) : nameFault? path a.fileName = none := by
  have hmem := (prefix_replaced t path artifacts).mem ha
  rcases replaced_cases t path artifacts with hnone | ⟨folder, v, rfl, hfree, -⟩
  · rw [hnone] at ha; cases ha
  · exact nameFault?_fileName (hnames a hmem) (Folder.stageFault?_eq_none.mp (hfree a hmem)).1

/-- What a target holds after a call, whatever came of it. -/
theorem holds?_persist (hnames : ∀ a ∈ artifacts, Name.isIdentifier a.family = true)
    (h : persist t path artifacts = (u, result)) (ha : a ∈ artifacts) :
    u.holds? (a.pathIn path) =
      if a.fileName ∈ (replaced t path artifacts).map (·.fileName) then
        some (.file (.text (stagedText artifacts a.fileName)))
      else (t.makeFolders path).1.holds? (a.pathIn path) := by
  cases hmake : t.makeFolders path with
  | mk v made =>
    cases made with
    | error fault =>
      simp only [persist, hmake] at h
      obtain ⟨rfl, -⟩ := Prod.mk.inj h
      simp [replaced, hmake]
    | ok loc =>
      obtain ⟨folder, rfl, rfl⟩ : ∃ folder : Folder, folder.path = path ∧ folder.location = loc :=
        ⟨⟨path, loc⟩, rfl, rfl⟩
      obtain ⟨hmoved, -⟩ := persist_spec folder hnames hmake h
      obtain ⟨-, hfolder⟩ := FileTree.makeFolders_spec hmake
      obtain ⟨-, hpath, hloc⟩ := hfolder folder.location rfl
      -- the folder is where it was made, so both trees are asked about the same place
      rw [FileTree.holds?_pathIn (hnames a ha) (hmoved.folders.foldlM_eq_ok hpath)
        ((hmoved.folders _).trans hloc), FileTree.holds?_pathIn (hnames a ha) hpath hloc]
      by_cases hmem : a.fileName ∈ (replaced t folder.path artifacts).map (·.fileName)
      · obtain ⟨b, hb, hname⟩ := List.mem_map.mp hmem
        rw [if_pos hmem, ← hname, if_pos (nameFault?_of_mem_replaced hnames hb),
          ← Folder.target_inj.mpr hname, hmoved.targets b hb]
      · rw [if_neg hmem, hmoved.others]
        · intro b hb heq
          exact hmem (List.mem_map.mpr ⟨b, hb, (Folder.target_inj.mp heq).symm⟩)
        · exact fun b _ => Folder.target_ne_slot

/-! ### Calls that succeed -/

theorem replaced_of_persist_eq_ok {targets : List Location}
    (hnames : ∀ a ∈ artifacts, Name.isIdentifier a.family = true)
    (h : persist t path artifacts = (u, .ok targets)) : replaced t path artifacts = artifacts := by
  cases hmake : t.makeFolders path with
  | mk v made =>
    cases made with
    | error fault => simp [persist, hmake] at h
    | ok loc => exact (persist_spec ⟨path, loc⟩ hnames hmake h).2.mp ⟨targets, rfl⟩

/-- Artifacts that share a file name are never all put into a folder. -/
theorem nodup_of_persist_eq_ok {targets : List Location}
    (hnames : ∀ a ∈ artifacts, Name.isIdentifier a.family = true)
    (h : persist t path artifacts = (u, .ok targets)) :
    (artifacts.map (·.fileName)).Nodup := by
  have hnodup := nodup_replaced t path artifacts
  rwa [replaced_of_persist_eq_ok hnames h] at hnodup

/-- After a call that succeeds, every target holds the text of its artifact. -/
theorem holds?_of_persist_eq_ok {targets : List Location}
    (hnames : ∀ a ∈ artifacts, Name.isIdentifier a.family = true)
    (h : persist t path artifacts = (u, .ok targets)) (ha : a ∈ artifacts) :
    u.holds? (a.pathIn path) = some (.file (.text a.contents)) := by
  rw [holds?_persist hnames h ha, replaced_of_persist_eq_ok hnames h,
    if_pos (List.mem_map_of_mem ha), stagedText_of_nodup (nodup_of_persist_eq_ok hnames h) ha]

/-! ### Calls that fail -/

/-- A call that fails has not replaced all targets, unless there was none. -/
theorem eq_nil_of_replaced_eq {fault : FileFault}
    (hnames : ∀ a ∈ artifacts, Name.isIdentifier a.family = true)
    (h : persist t path artifacts = (u, .error fault)) (hall : replaced t path artifacts = artifacts) :
    artifacts = [] := by
  cases hmake : t.makeFolders path with
  | mk v made =>
    cases made with
    | error fault => rw [← hall, replaced, hmake]
    | ok loc =>
      obtain ⟨targets, htargets⟩ :=
        (persist_spec ⟨path, loc⟩ hnames hmake h).2.mpr hall
      cases htargets

/-- A call that fails has replaced the targets of some artifacts at the front.  It leaves
every target as it was exactly when each of these held its new text before and the
folders made for the path brought nothing to a target. -/
theorem targets_kept_iff {fault : FileFault}
    (hnames : ∀ a ∈ artifacts, Name.isIdentifier a.family = true)
    (h : persist t path artifacts = (u, .error fault)) :
    (replaced t path artifacts <+: artifacts ∧
      (replaced t path artifacts = artifacts → artifacts = [])) ∧
    ((∀ a ∈ artifacts, u.holds? (a.pathIn path) = t.holds? (a.pathIn path)) ↔
      (∀ a ∈ artifacts, (t.makeFolders path).1.holds? (a.pathIn path) = t.holds? (a.pathIn path)) ∧
      ∀ a ∈ replaced t path artifacts,
        t.holds? (a.pathIn path) = some (.file (.text (stagedText artifacts a.fileName)))) := by
  have hfront := prefix_replaced t path artifacts
  refine ⟨⟨hfront, eq_nil_of_replaced_eq hnames h⟩, ?_, ?_⟩
  · intro hkept
    have hreplaced : ∀ a ∈ replaced t path artifacts,
        t.holds? (a.pathIn path) = some (.file (.text (stagedText artifacts a.fileName))) := by
      intro a ha
      rw [← hkept a (hfront.mem ha), holds?_persist hnames h (hfront.mem ha),
        if_pos (List.mem_map_of_mem ha)]
    refine ⟨fun a ha => ?_, hreplaced⟩
    by_cases hmem : a.fileName ∈ (replaced t path artifacts).map (·.fileName)
    · -- the target held something, so no folder on the way to it was missing
      obtain ⟨b, hb, hname⟩ := List.mem_map.mp hmem
      have hheld := hreplaced b hb
      rw [Artifact.pathIn_congr path hname] at hheld
      rw [hheld]
      exact (FileTree.makeFolders_spec (Prod.eta _).symm).1.holds?_eq_some hheld
    · rw [← hkept a ha, holds?_persist hnames h ha, if_neg hmem]
  · rintro ⟨hmade, hreplaced⟩ a ha
    rw [holds?_persist hnames h ha]
    split
    · next hmem =>
      obtain ⟨b, hb, hname⟩ := List.mem_map.mp hmem
      rw [← hname, ← Artifact.pathIn_congr path hname, hreplaced b hb]
    · exact hmade a ha

/-- The modules of two families. -/
def twoModules : List Artifact :=
  [⟨"Expr", "fresh"⟩, ⟨"Stmt", "fresh"⟩]

/-- A folder that holds a text in the place of the first module and a folder in the
place of the second. -/
def blockedTree (text : String) : FileTree :=
  ((FileTree.empty.put ["out"] .folder).put ["out", "expr.rs"] (.file (.text text))).put
    ["out", "stmt.rs"] .folder

/-- The second module cannot be moved, and the first was there before. -/
theorem targets_kept_of_fresh :
    (∀ a ∈ twoModules, Name.isIdentifier a.family = true) ∧
      ∃ u, persist (blockedTree "fresh") "out" twoModules = (u, .error .isFolder) ∧
        ∀ a ∈ twoModules,
          u.holds? (a.pathIn "out") = (blockedTree "fresh").holds? (a.pathIn "out") := by
  have hnames : ∀ a ∈ twoModules, Name.isIdentifier a.family = true := by decide
  have h : persist (blockedTree "fresh") "out" twoModules = (_, .error .isFolder) := rfl
  exact ⟨hnames, _, h, (targets_kept_iff hnames h).2.mpr ⟨by decide, by decide⟩⟩

/-- A failure can leave a target replaced: the first module is moved before the second
turns out to be blocked. -/
theorem not_forall_targets_kept :
    ¬ ∀ (t u : FileTree) (path : String) (artifacts : List Artifact) (fault : FileFault),
      (∀ a ∈ artifacts, Name.isIdentifier a.family = true) →
      persist t path artifacts = (u, .error fault) →
        ∀ a ∈ artifacts, u.holds? (a.pathIn path) = t.holds? (a.pathIn path) := by
  intro h
  have hkept := h (blockedTree "stale") _ "out" twoModules .isFolder (by decide) rfl
    ⟨"Expr", "fresh"⟩ List.mem_cons_self
  revert hkept
  decide

end TreeSmith
