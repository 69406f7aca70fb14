import TreeSmith.Proofs.ArtifactFiles

/-!
# Putting artifacts into a folder

What a folder holds after artifacts were put into it, however far that went.  Staging
stops at the first artifact that cannot be staged.  Moving stops at the first artifact
whose target is a folder or whose file name came up before, since its staged file is
gone by then.  Targets that were replaced until then stay replaced.

## Main definitions

* `Folder.stageFault?`, `Folder.movable` — where staging and moving stop.
* `stagedText` — the text that is staged last under a file name.
* `Folder.Staged`, `Folder.Moved` — the effects of staging and of moving.
* `replaced` — the artifacts whose targets are replaced.

## Main results

* `stageAll_spec`, `commitAll_spec` — the two passes have these effects.
* `persist_spec` — what a call leaves behind, and when nothing failed.
-/

namespace TreeSmith

/-- The text that is staged last under a file name. -/
def stagedText (artifacts : List Artifact) (name : String) : String :=
  ((artifacts.reverse.find? (·.fileName = name)).map (·.contents)).getD ""

theorem stagedText_cons_of_mem {a b : Artifact} {more : List Artifact} {name : String}
    (hb : b ∈ more) (hname : b.fileName = name) :
    stagedText (a :: more) name = stagedText more name := by
  have hsome : (more.reverse.find? (·.fileName = name)).isSome = true := by
    rw [List.find?_isSome]
    exact ⟨b, List.mem_reverse.mpr hb, by simpa using hname⟩
  obtain ⟨c, hc⟩ := Option.isSome_iff_exists.mp hsome
  simp [stagedText, List.find?_append, hc]

theorem stagedText_cons_self {a : Artifact} {more : List Artifact}
    (h : ∀ b ∈ more, b.fileName ≠ a.fileName) :
    stagedText (a :: more) a.fileName = a.contents := by
  have hnone : more.reverse.find? (·.fileName = a.fileName) = none := by
    rw [List.find?_eq_none]
    intro b hb
    simpa using h b (List.mem_reverse.mp hb)
  simp [stagedText, List.find?_append, hnone]

theorem stagedText_of_nodup {a : Artifact} {artifacts : List Artifact}
    (hnodup : (artifacts.map (·.fileName)).Nodup) (ha : a ∈ artifacts) :
    stagedText artifacts a.fileName = a.contents := by
  induction artifacts with
  | nil => cases ha
  | cons b more ih =>
    rw [List.map_cons, List.nodup_cons] at hnodup
    obtain ⟨hb, hmore⟩ := hnodup
    rcases List.mem_cons.mp ha with rfl | ha
    · exact stagedText_cons_self fun c hc heq => hb (List.mem_map.mpr ⟨c, hc, heq⟩)
    · rw [stagedText_cons_of_mem ha rfl, ih hmore ha]

namespace Folder

variable {folder : Folder} {t u : FileTree} {a : Artifact} {artifacts : List Artifact}

/-! ### Staging -/

/-- Why an artifact cannot be staged, if it cannot. -/
def stageFault? (folder : Folder) (t : FileTree) (a : Artifact) : Option FileFault :=
  (nameFault? folder.path a.stagingName).or
    (if t.isFolder (folder.slot a) then some .isFolder else none)

theorem stageFault?_congr (h : t.SameFolders u) : folder.stageFault? u = folder.stageFault? t := by
  funext a
  rw [stageFault?, stageFault?, h]

theorem stageFault?_eq_none : folder.stageFault? t a = none ↔
    nameFault? folder.path a.stagingName = none ∧ t.isFolder (folder.slot a) = false := by
  simp [stageFault?, Option.or_eq_none_iff]

theorem stage_of_isFolder (ha : Name.isIdentifier a.family = true)
    (hloc : t.isFolder folder.location = true) :
    stage folder t a = match folder.stageFault? t a with
      | some fault => .error fault
      | none => .ok (t.put (folder.slot a) (.file (.text a.contents)), folder.slot a) := by
  have hparent : t.checkParent (folder.slot a) = .ok () := by
    simp [FileTree.checkParent, slot, hloc]
  rw [stage, place_of_plainName (Artifact.plainName_stagingName ha) hloc, namePlace, stageFault?]
  cases nameFault? folder.path a.stagingName with
  | some fault => rfl
  | none =>
    simp only [ok_bind, Option.none_or, FileTree.write]
    rw [← slot, hparent]
    cases t.isFolder (folder.slot a) <;> rfl

/-- The second tree is the first with artifacts staged in it. -/
structure Staged (folder : Folder) (t u : FileTree) (artifacts : List Artifact) : Prop where
  folders : t.SameFolders u
  slots : ∀ a ∈ artifacts,
    u.get? (folder.slot a) = some (.file (.text (stagedText artifacts a.fileName)))
  others : ∀ l, (∀ a ∈ artifacts, l ≠ folder.slot a) → u.get? l = t.get? l

theorem Staged.nil : folder.Staged t t [] where
  folders := .refl t
  slots := by simp
  others _ _ := rfl

/-- Staging an artifact before others: one of the same name after it takes its slot. -/
theorem Staged.cons (hslot : t.isFolder (folder.slot a) = false)
    (h : folder.Staged (t.put (folder.slot a) (.file (.text a.contents))) u artifacts) :
    folder.Staged t u (a :: artifacts) where
  folders := (FileTree.sameFolders_put slot_ne_nil hslot _).trans h.folders
  slots := by
    intro b hb
    -- a later artifact of the same name has written over the slot
    by_cases hmem : ∃ c ∈ artifacts, c.fileName = b.fileName
    · obtain ⟨c, hc, hname⟩ := hmem
      rw [stagedText_cons_of_mem hc hname, ← slot_inj.mpr hname, ← hname]
      exact h.slots c hc
    · push Not at hmem
      obtain rfl : b = a := (List.mem_cons.mp hb).resolve_right fun hb => hmem b hb rfl
      rw [h.others _ fun c hc heq => hmem c hc (slot_inj.mp heq).symm, stagedText_cons_self hmem,
        FileTree.get?_put t slot_ne_nil, if_pos rfl]
  others := by
    intro l hl
    obtain ⟨ha, hmore⟩ := List.forall_mem_cons.mp hl
    rw [h.others l hmore, FileTree.get?_put t slot_ne_nil, if_neg ha]

/-- Staging stops at the first artifact that cannot be staged. -/
theorem stageAll_spec (hnames : ∀ a ∈ artifacts, Name.isIdentifier a.family = true) :
    ∀ {t u : FileTree} {staged : List Location} {fault : Option FileFault},
      t.isFolder folder.location = true → stageAll folder t artifacts = (u, staged, fault) →
        let before := artifacts.takeWhile fun a => (folder.stageFault? t a).isNone
        fault = artifacts.findSome? (folder.stageFault? t) ∧ staged = before.map folder.slot ∧
          folder.Staged t u before := by
  -- what can be staged depends on the folders, which staging leaves alone
  induction artifacts with
  | nil =>
    intro t u staged fault _ h
    obtain ⟨rfl, rfl, rfl⟩ := by simpa [stageAll] using h
    exact ⟨rfl, rfl, .nil⟩
  | cons a more ih =>
    intro t u staged fault hloc h
    obtain ⟨ha, hmore⟩ := List.forall_mem_cons.mp hnames
    rw [stageAll, stage_of_isFolder ha hloc] at h
    cases hfault : folder.stageFault? t a with
    | some first =>
      simp only [hfault, Prod.mk.injEq] at h
      obtain ⟨rfl, rfl, rfl⟩ := h
      simp only [List.takeWhile_cons, hfault, List.findSome?_cons, true_and]
      exact ⟨rfl, .nil⟩
    | none =>
      obtain ⟨-, hslot⟩ := stageFault?_eq_none.mp hfault
      have hfolders := FileTree.sameFolders_put slot_ne_nil hslot (.text a.contents)
      simp only [hfault] at h
      generalize hrest : stageAll folder (t.put (folder.slot a) (.file (.text a.contents))) more =
        rest at h
      obtain ⟨v, restStaged, restFault⟩ := rest
      simp only [Prod.mk.injEq] at h
      obtain ⟨rfl, rfl, rfl⟩ := h
      obtain ⟨hrestFault, hrestStaged, hstaged⟩ := ih hmore ((hfolders _).trans hloc) hrest
      rw [stageFault?_congr hfolders] at hrestFault hrestStaged hstaged
      simp only [List.takeWhile_cons, hfault, List.findSome?_cons]
      exact ⟨hrestFault, congrArg _ hrestStaged, hstaged.cons hslot⟩

end Folder

/-! ### Discarding -/

theorem get?_discard_of_notMem {locs : List Location} {l : Location} (hl : l ∉ locs) :
    ∀ t : FileTree, (discard t locs).get? l = t.get? l := by
  induction locs with
  | nil => intro t; rfl
  | cons loc locs ih =>
    intro t
    rw [List.mem_cons, not_or] at hl
    rw [discard]
    cases hremove : t.remove loc with
    | error fault => exact ih hl.2 t
    | ok v =>
      obtain ⟨-, hget⟩ := FileTree.remove_effect hremove
      exact (ih hl.2 v).trans ((hget l).trans (if_neg hl.1))

theorem sameFolders_discard (locs : List Location) :
    ∀ t : FileTree, t.SameFolders (discard t locs) := by
  induction locs with
  | nil => exact FileTree.SameFolders.refl
  | cons loc locs ih =>
    intro t
    rw [discard]
    cases hremove : t.remove loc with
    | error fault => exact ih t
    | ok v => exact (FileTree.remove_effect hremove).1.trans (ih v)

/-- Nothing is left of a staged file that is discarded. -/
theorem get?_discard_of_mem {locs : List Location} {l : Location} (hl : l ∈ locs) :
    ∀ {t : FileTree}, t.isFolder l = false → (discard t locs).get? l = none := by
  induction locs with
  | nil => cases hl
  | cons loc locs ih =>
    intro t hfolder
    rw [discard]
    by_cases hlater : l ∈ locs
    · cases hremove : t.remove loc with
      | error fault => exact ih hlater hfolder
      | ok v => exact ih hlater (((FileTree.remove_effect hremove).1 l).trans hfolder)
    · obtain rfl : l = loc := (List.mem_cons.mp hl).resolve_right hlater
      cases hremove : t.remove l with
      | error fault =>
        -- only a file could have been removed, so nothing is there
        refine (get?_discard_of_notMem hlater t).trans ?_
        cases hget : t.get? l with
        | none => rfl
        | some e =>
          cases e with
          | folder => exact absurd hget (FileTree.isFolder_eq_false_iff.mp hfolder)
          | file content =>
            rw [FileTree.remove_eq_ok.mpr ⟨⟨content, hget⟩, rfl⟩] at hremove
            cases hremove
      | ok v =>
        obtain ⟨-, hget⟩ := FileTree.remove_effect hremove
        exact (get?_discard_of_notMem hlater v).trans ((hget l).trans (if_pos rfl))

namespace Folder

variable {folder : Folder} {t u : FileTree} {a : Artifact} {artifacts more : List Artifact}

/-! ### Moving -/

/-- The artifacts that can be moved one after the other when some file names came up
before: those in front of the first whose target is a folder or whose file name came
up. -/
def movable (folder : Folder) (t : FileTree) : List String → List Artifact → List Artifact
  | _, [] => []
  | names, a :: more =>
    if a.fileName ∈ names ∨ t.isFolder (folder.target a) = true then []
    else a :: movable folder t (a.fileName :: names) more

theorem movable_congr (h : t.SameFolders u) : ∀ (names : List String) (artifacts : List Artifact),
    folder.movable u names artifacts = folder.movable t names artifacts
  | _, [] => rfl
  | names, a :: more => by
    simp only [movable, h (folder.target a), movable_congr h (a.fileName :: names) more]

theorem fileName_notMem_of_mem_movable : ∀ {names : List String} {artifacts : List Artifact},
    a ∈ folder.movable t names artifacts → a.fileName ∉ names
  | names, b :: more, ha => by
    simp only [movable] at ha
    split at ha
    · cases ha
    · next hb =>
      rcases List.mem_cons.mp ha with rfl | ha
      · exact fun hmem => hb (.inl hmem)
      · exact fun hmem => fileName_notMem_of_mem_movable ha (List.mem_cons_of_mem _ hmem)

theorem nodup_movable : ∀ (names : List String) (artifacts : List Artifact),
    ((folder.movable t names artifacts).map (·.fileName)).Nodup
  | _, [] => List.nodup_nil
  | names, a :: more => by
    rw [movable]
    split
    · exact List.nodup_nil
    · refine List.nodup_cons.mpr ⟨fun hmem => ?_, nodup_movable _ more⟩
      obtain ⟨b, hb, heq⟩ := List.mem_map.mp hmem
      exact fileName_notMem_of_mem_movable hb (heq ▸ List.mem_cons_self)

theorem prefix_movable : ∀ (names : List String) (artifacts : List Artifact),
    folder.movable t names artifacts <+: artifacts
  | _, [] => List.prefix_rfl
  | names, a :: more => by
    rw [movable]
    split
    · exact List.nil_prefix
    · exact (List.prefix_cons_inj a).mpr (prefix_movable _ more)

/-- The second tree is the first after moving some of the staged artifacts and
discarding the others.  The texts are those that were staged. -/
structure Moved (folder : Folder) (text : String → String) (t u : FileTree)
    (artifacts moved : List Artifact) : Prop where
  folders : t.SameFolders u
  targets : ∀ a ∈ moved, u.get? (folder.target a) = some (.file (.text (text a.fileName)))
  slots : ∀ a ∈ artifacts, u.get? (folder.slot a) = none
  others : ∀ l, (∀ a ∈ moved, l ≠ folder.target a) → (∀ a ∈ artifacts, l ≠ folder.slot a) →
    u.get? l = t.get? l

/-- The slots of the artifacts that are still to be moved, when some file names came up
before. -/
def Pending (folder : Folder) (text : String → String) (t : FileTree) (names : List String)
    (artifacts : List Artifact) : Prop :=
  ∀ a ∈ artifacts, t.get? (folder.slot a) =
    if a.fileName ∈ names then none else some (.file (.text (text a.fileName)))

variable {text : String → String} {names : List String}

theorem Pending.isFolder_slot (h : folder.Pending text t names artifacts) (ha : a ∈ artifacts) :
    t.isFolder (folder.slot a) = false := by
  rw [FileTree.isFolder_eq_false_iff, h a ha]
  split <;> simp

/-- Discarding everything that is left moves nothing. -/
theorem Pending.moved_discard (h : folder.Pending text t names artifacts)
    (text' : String → String) :
    folder.Moved text' t (discard t (artifacts.map folder.slot)) artifacts [] where
  folders := sameFolders_discard _ t
  targets := by simp
  slots a ha := get?_discard_of_mem (List.mem_map_of_mem ha) (h.isFolder_slot ha)
  others l _ hl := by
    refine get?_discard_of_notMem (fun hmem => ?_) t
    obtain ⟨a, ha, rfl⟩ := List.mem_map.mp hmem
    exact hl a ha rfl

theorem Staged.pending (h : folder.Staged t u artifacts) :
    folder.Pending (stagedText artifacts) u [] artifacts := by
  intro a ha
  simpa using h.slots a ha

/-- Staging only fills slots, which moving empties again. -/
theorem Staged.trans_moved {v : FileTree} {moved : List Artifact}
    (hstaged : folder.Staged t u artifacts) (hmoved : folder.Moved text u v artifacts moved) :
    folder.Moved text t v artifacts moved where
  folders := hstaged.folders.trans hmoved.folders
  targets := hmoved.targets
  slots := hmoved.slots
  others l htargets hslots := by rw [hmoved.others l htargets hslots, hstaged.others l hslots]

theorem commit_of_isFolder (ha : Name.isIdentifier a.family = true)
    (hloc : t.isFolder folder.location = true) (hname : nameFault? folder.path a.fileName = none)
    (loc : Location) :
    commit folder t loc a = (t.rename loc (folder.target a)).map (·, folder.target a) := by
  rw [commit, place_of_plainName (Artifact.plainName_fileName ha) hloc, namePlace, hname]
  simp only [ok_bind]
  rw [← target]
  cases t.rename loc (folder.target a) <;> rfl

/-- The first artifact can be moved exactly when its file name is new and its target is
no folder. -/
theorem Pending.rename_eq_ok (h : folder.Pending text t names (a :: more))
    (hloc : t.isFolder folder.location = true) :
    (∃ v, t.rename (folder.slot a) (folder.target a) = .ok v) ↔
      ¬ (a.fileName ∈ names ∨ t.isFolder (folder.target a) = true) := by
  have hparent : (folder.target a).dropLast = folder.location := List.dropLast_concat
  have hslot := h a List.mem_cons_self
  simp only [FileTree.rename_eq_ok, hparent, hloc, hslot, not_or, Bool.not_eq_true]
  by_cases hmem : a.fileName ∈ names <;> simp [hmem]

/-- Moving the first artifact leaves the others pending. -/
theorem Pending.tail {v : FileTree} (h : folder.Pending text t names (a :: more))
    (hmove : t.rename (folder.slot a) (folder.target a) = .ok v) :
    folder.Pending text v (a.fileName :: names) more := by
  intro b hb
  obtain ⟨-, content, hfile, hget⟩ := FileTree.rename_effect hmove
  rw [hget, if_neg target_ne_slot.symm, h b (List.mem_cons_of_mem _ hb)]
  by_cases hab : b.fileName = a.fileName <;> simp [slot_inj, hab]

/-- Moving an artifact before others, none of which has its file name. -/
theorem Moved.cons {v : FileTree} {moved : List Artifact}
    (hpending : folder.Pending text t names (a :: more))
    (hmove : t.rename (folder.slot a) (folder.target a) = .ok v)
    (hnew : ∀ b ∈ moved, b.fileName ≠ a.fileName) (h : folder.Moved text v u more moved) :
    folder.Moved text t u (a :: more) (a :: moved) := by
  obtain ⟨hfolders, content, hfile, hget⟩ := FileTree.rename_effect hmove
  have hcontent : content = .text (text a.fileName) := by
    have hslot := hpending a List.mem_cons_self
    rw [hfile] at hslot
    split at hslot
    · cases hslot
    · simpa using hslot
  subst hcontent
  refine ⟨hfolders.trans h.folders, ?_, ?_, ?_⟩
  · intro b hb
    rcases List.mem_cons.mp hb with rfl | hb
    · rw [h.others _ (fun c hc heq => hnew c hc (target_inj.mp heq).symm)
        (fun c _ => target_ne_slot), hget, if_pos rfl]
    · exact h.targets b hb
  · intro b hb
    -- the slot of a name that comes up again is emptied with the others
    by_cases hmem : ∃ c ∈ more, c.fileName = b.fileName
    · obtain ⟨c, hc, hname⟩ := hmem
      rw [← slot_inj.mpr hname]
      exact h.slots c hc
    · push Not at hmem
      obtain rfl : b = a := (List.mem_cons.mp hb).resolve_right fun hb => hmem b hb rfl
      rw [h.others _ (fun c _ => target_ne_slot.symm)
        (fun c hc heq => hmem c hc (slot_inj.mp heq).symm), hget, if_neg target_ne_slot.symm,
        if_pos rfl]
  · intro l htargets hslots
    obtain ⟨htarget, htargets⟩ := List.forall_mem_cons.mp htargets
    obtain ⟨hslot, hslots⟩ := List.forall_mem_cons.mp hslots
    rw [h.others l htargets hslots, hget, if_neg htarget, if_neg hslot]

/-- Moving stops at the first artifact that cannot be moved. -/
theorem commitAll_spec {more : List Artifact} :
    ∀ {t u : FileTree} {names : List String} {result : Except FileFault (List Location)},
      t.isFolder folder.location = true → (∀ a ∈ more, Name.isIdentifier a.family = true) →
      (∀ a ∈ more, nameFault? folder.path a.fileName = none) →
      folder.Pending text t names more →
      commitAll folder t (more.map fun a => (folder.slot a, a)) = (u, result) →
        folder.Moved text t u more (folder.movable t names more) ∧
          ((∃ targets, result = .ok targets) ↔ folder.movable t names more = more) := by
  -- the names that came up grow along the list, and `Pending` carries their empty slots
  induction more with
  | nil =>
    intro t u names result _ _ _ hpending h
    obtain ⟨rfl, rfl⟩ := Prod.mk.inj h
    exact ⟨hpending.moved_discard text, by simp [movable]⟩
  | cons a more ih =>
    intro t u names result hloc hids hplaces hpending h
    obtain ⟨ha, hids⟩ := List.forall_mem_cons.mp hids
    obtain ⟨hplace, hplaces⟩ := List.forall_mem_cons.mp hplaces
    rw [List.map_cons, commitAll, commit_of_isFolder ha hloc hplace] at h
    cases hmove : t.rename (folder.slot a) (folder.target a) with
    | error fault =>
      have hblocked : a.fileName ∈ names ∨ t.isFolder (folder.target a) = true := by
        by_contra hfree
        obtain ⟨v, hv⟩ := (hpending.rename_eq_ok hloc).mpr hfree
        rw [hmove] at hv
        cases hv
      rw [hmove] at h
      obtain ⟨rfl, rfl⟩ := Prod.mk.inj h
      rw [movable, if_pos hblocked, List.map_map]
      exact ⟨hpending.moved_discard text, by simp⟩
    | ok v =>
      have hfree := (hpending.rename_eq_ok hloc).mp ⟨v, hmove⟩
      have hfolders := (FileTree.rename_effect hmove).1
      rw [hmove] at h
      generalize hrest : commitAll folder v (more.map fun a => (folder.slot a, a)) = rest at h
      obtain ⟨w, written⟩ := rest
      simp only [Except.map, hrest, Prod.mk.injEq] at h
      obtain ⟨rfl, rfl⟩ := h
      obtain ⟨hmoved, hwritten⟩ :=
        ih ((hfolders _).trans hloc) hids hplaces (hpending.tail hmove) hrest
      rw [movable_congr hfolders] at hmoved hwritten
      rw [movable, if_neg hfree]
      refine ⟨hmoved.cons hpending hmove fun b hb heq => ?_, ?_⟩
      · exact fileName_notMem_of_mem_movable hb (heq ▸ List.mem_cons_self)
      · rw [List.cons.injEq, and_iff_right rfl, ← hwritten]
        cases written <;> simp

theorem zip_slots (folder : Folder) (artifacts : List Artifact) :
    (artifacts.map folder.slot).zip artifacts = artifacts.map fun a => (folder.slot a, a) := by
  simpa using List.zip_map' (f := folder.slot) (g := id) (l := artifacts)

end Folder

/-! ### All of it -/

/-- The artifacts whose targets are replaced, whether or not the others follow: none
unless the folder is there and every artifact can be staged. -/
def replaced (t : FileTree) (path : String) (artifacts : List Artifact) : List Artifact :=
  match t.makeFolders path with
  | (_, .error _) => []
  | (t, .ok location) =>
    let folder : Folder := ⟨path, location⟩
    if (artifacts.findSome? (folder.stageFault? t)).isSome then [] else folder.movable t [] artifacts

section Persist

variable {folder : Folder} {t u v : FileTree} {path : String} {a : Artifact}
  {artifacts : List Artifact} {result : Except FileFault (List Location)}

theorem replaced_of_makeFolders (hmake : t.makeFolders folder.path = (v, .ok folder.location)) :
    replaced t folder.path artifacts =
      if (artifacts.findSome? (folder.stageFault? v)).isSome then []
      else folder.movable v [] artifacts := by
  simp only [replaced, hmake]

theorem persist_of_makeFolders (hmake : t.makeFolders folder.path = (v, .ok folder.location)) :
    persist t folder.path artifacts = match stageAll folder v artifacts with
      | (w, staged, some fault) => (discard w staged, .error fault)
      | (w, staged, none) => commitAll folder w (staged.zip artifacts) := by
  simp only [persist, hmake]
  obtain ⟨w, staged, fault⟩ := stageAll folder v artifacts
  cases fault <;> rfl

/-- What a call that could make its folder leaves behind. -/
theorem persist_spec (folder : Folder)
    (hnames : ∀ a ∈ artifacts, Name.isIdentifier a.family = true)
    (hmake : t.makeFolders folder.path = (v, .ok folder.location))
    (h : persist t folder.path artifacts = (u, result)) :
    folder.Moved (stagedText artifacts) v u
        (artifacts.takeWhile fun a => (folder.stageFault? v a).isNone)
        (replaced t folder.path artifacts) ∧
      ((∃ targets, result = .ok targets) ↔ replaced t folder.path artifacts = artifacts) := by
  obtain ⟨-, hfolder⟩ := FileTree.makeFolders_spec hmake
  obtain ⟨-, -, hloc⟩ := hfolder folder.location rfl
  rw [persist_of_makeFolders hmake] at h
  rw [replaced_of_makeFolders hmake]
  generalize hstage : stageAll folder v artifacts = staging at h
  obtain ⟨w, staged, fault⟩ := staging
  obtain ⟨hfault, rfl, hstaged⟩ := Folder.stageAll_spec hnames hloc hstage
  rw [← hfault]
  cases fault with
  | some fault =>
    obtain ⟨rfl, rfl⟩ := Prod.mk.inj h
    have hne : artifacts ≠ [] := by rintro rfl; cases hfault
    exact ⟨hstaged.trans_moved (hstaged.pending.moved_discard _), by simpa using hne.symm⟩
  | none =>
    -- everything is staged, so every target has a place and the slots hold the last texts
    have hfree : ∀ a ∈ artifacts, folder.stageFault? v a = none :=
      List.findSome?_eq_none_iff.mp hfault.symm
    have hplaces : ∀ a ∈ artifacts, nameFault? folder.path a.fileName = none := fun a ha =>
      nameFault?_fileName (hnames a ha) (Folder.stageFault?_eq_none.mp (hfree a ha)).1
    have hall : (artifacts.takeWhile fun a => (folder.stageFault? v a).isNone) = artifacts :=
      List.takeWhile_eq_self_iff.mpr fun a ha => by simp [hfree a ha]
    rw [hall] at hstaged ⊢
    simp only [hall, Folder.zip_slots] at h
    obtain ⟨hmoved, hresult⟩ := Folder.commitAll_spec ((hstaged.folders _).trans hloc) hnames
      hplaces hstaged.pending h
    rw [Folder.movable_congr hstaged.folders] at hmoved hresult
    exact ⟨hstaged.trans_moved hmoved, hresult⟩

end Persist

end TreeSmith
