import TreeSmith.Proofs.MadeFolders
import TreeSmith.Proofs.Targets

/-!
# The complete effect of putting artifacts into a folder

A call makes its folder, stages every artifact, and moves the staged files to their
targets.  It can end in four ways: the folder cannot be made, an artifact cannot be
staged, a staged artifact cannot be moved, or all goes well.  For artifacts with
different file names this module says for the last three what stands where afterwards: the
targets that were moved hold their texts, no staged file is left, and nothing else has
changed but for the folders that were made.  Such a folder can stand at a target only when
the path of the folder goes up on its way.  After a success the same call changes nothing.

## Main definitions

* `Folder.Effect` — what stands where after a call.
* `Folder.StagingFails`, `Folder.MovingFails` — where a call stops.

## Main results

* `stageAll_stops`, `commitAll_stops` — the two passes stop at the first fault.
* `persist_eq_self` — the same call after a success changes nothing.
* `persist_effect` — **the complete effect of a call.**
* `not_forall_target_kept` — a failure that leaves a folder at a target.
-/

namespace TreeSmith

/-! ### Where the passes stop -/

section Passes

variable {folder : Folder} {fault : FileFault}

/-- Staging stops at the first artifact that cannot be staged. -/
theorem stageAll_stops {front : List Artifact} {a : Artifact} (more : List Artifact) :
    ∀ {t w : FileTree} {staged : List Location}, stageAll folder t front = (w, staged, none) →
      stage folder w a = .error fault →
        stageAll folder t (front ++ a :: more) = (w, staged, some fault) := by
  induction front with
  | nil =>
    intro t w staged h ha
    cases h
    rw [List.nil_append, stageAll, ha]
  | cons b front ih =>
    intro t w staged h ha
    rw [stageAll] at h
    rw [List.cons_append, stageAll]
    cases hb : stage folder t b with
    | error first =>
      simp only [hb] at h
      cases h
    | ok next =>
      simp only [hb] at h
      generalize hrest : stageAll folder next.1 front = rest at h
      obtain ⟨w', staged', fault'⟩ := rest
      cases h
      simp only [ih hrest ha]

/-- Moving stops at the first artifact that cannot be moved, and what is left of the staged
files is discarded. -/
theorem commitAll_stops {front : List (Location × Artifact)} {loc : Location} {a : Artifact}
    (more : List (Location × Artifact)) :
    ∀ {t x : FileTree} {moved : List Location}, commitAll folder t front = (x, .ok moved) →
      commit folder x loc a = .error fault →
        commitAll folder t (front ++ (loc, a) :: more) =
          (discard x (loc :: more.map (·.1)), .error fault) := by
  induction front with
  | nil =>
    intro t x moved h ha
    cases h
    rw [List.nil_append, commitAll, ha]
  | cons b front ih =>
    intro t x moved h ha
    rw [commitAll] at h
    rw [List.cons_append, commitAll]
    cases hb : commit folder t b.1 b.2 with
    | error first =>
      simp only [hb] at h
      cases h
    | ok next =>
      simp only [hb] at h
      generalize hrest : commitAll folder next.1 front = rest at h
      obtain ⟨x', written⟩ := rest
      cases written with
      | error first => cases h
      | ok targets =>
        cases h
        simp only [ih hrest ha]
        rfl

/-- A staging pass that fails has come to an artifact that cannot be staged. -/
theorem exists_stage_eq_error {artifacts : List Artifact} :
    ∀ {t w : FileTree} {staged : List Location},
      stageAll folder t artifacts = (w, staged, some fault) →
        ∃ k a, stageAll folder t (artifacts.take k) = (w, staged, none) ∧
          artifacts[k]? = some a ∧ stage folder w a = .error fault := by
  induction artifacts with
  | nil =>
    intro t w staged h
    cases h
  | cons b more ih =>
    intro t w staged h
    rw [stageAll] at h
    cases hb : stage folder t b with
    | error first =>
      simp only [hb] at h
      cases h
      exact ⟨0, b, rfl, rfl, hb⟩
    | ok next =>
      simp only [hb] at h
      generalize hrest : stageAll folder next.1 more = rest at h
      obtain ⟨w', staged', fault'⟩ := rest
      cases h
      obtain ⟨k, a, hfront, hk, ha⟩ := ih hrest
      refine ⟨k + 1, a, ?_, hk, ha⟩
      rw [List.take_succ_cons, stageAll]
      simp only [hb, hfront]

/-- A moving pass that fails has come to an artifact that cannot be moved. -/
theorem exists_commit_eq_error {pending : List (Location × Artifact)} :
    ∀ {t u : FileTree}, commitAll folder t pending = (u, .error fault) →
      ∃ k x moved loc a, commitAll folder t (pending.take k) = (x, .ok moved) ∧
        pending[k]? = some (loc, a) ∧ commit folder x loc a = .error fault := by
  induction pending with
  | nil =>
    intro t u h
    cases h
  | cons b more ih =>
    intro t u h
    rw [commitAll] at h
    cases hb : commit folder t b.1 b.2 with
    | error first =>
      simp only [hb] at h
      cases h
      exact ⟨0, t, [], b.1, b.2, rfl, rfl, hb⟩
    | ok next =>
      simp only [hb] at h
      generalize hrest : commitAll folder next.1 more = rest at h
      obtain ⟨u', written⟩ := rest
      cases written with
      | ok targets => cases h
      | error first =>
        cases h
        obtain ⟨k, x, moved, loc, a, hfront, hk, ha⟩ := ih hrest
        refine ⟨k + 1, x, next.2 :: moved, loc, a, ?_, hk, ha⟩
        rw [List.take_succ_cons, commitAll]
        simp only [hb, hfront]
        rfl

end Passes

namespace Folder

variable {folder : Folder} {t u v : FileTree} {artifacts : List Artifact}

/-- What stands where after a call: some artifacts were staged, some of them were moved, and
some targets were waiting for theirs. -/
structure Effect (folder : Folder) (t u : FileTree) (staged moved waiting : List Artifact) :
    Prop where
  /-- The path of the folder leads to its place. -/
  leads : u.resolve folder.path = .ok folder.location
  /-- The targets that were moved hold their texts. -/
  targets : ∀ a ∈ moved, u.get? (folder.target a) = some (.file (.text a.contents))
  /-- Nothing is left of the staged files. -/
  slots : ∀ a ∈ staged, u.get? (folder.slot a) = none
  /-- The targets that were waiting are as before, or folders that were made for the path. -/
  kept : ∀ a ∈ waiting, t.KeptAt u (folder.target a)
  /-- They are as before when the path never goes up. -/
  kept_eq : ".." ∉ Text.split '/' folder.path → ∀ a ∈ waiting,
    u.get? (folder.target a) = t.get? (folder.target a)
  /-- All other places are as before, or folders that were made for the path. -/
  others : ∀ l, (∀ a ∈ moved, l ≠ folder.target a) → (∀ a ∈ staged, l ≠ folder.slot a) →
    t.KeptAt u l

/-- The folder is there and the artifacts before the `k`-th are staged, but the `k`-th cannot
be. -/
def StagingFails (folder : Folder) (t : FileTree) (artifacts : List Artifact) (k : ℕ)
    (fault : FileFault) : Prop :=
  ∃ v w staged a, t.makeFolders folder.path = (v, .ok folder.location) ∧
    stageAll folder v (artifacts.take k) = (w, staged, none) ∧
    artifacts[k]? = some a ∧ stage folder w a = .error fault

/-- All artifacts are staged and those before the `k`-th are moved, but the `k`-th cannot
be. -/
def MovingFails (folder : Folder) (t : FileTree) (artifacts : List Artifact) (k : ℕ)
    (fault : FileFault) : Prop :=
  ∃ v w staged x moved loc a, t.makeFolders folder.path = (v, .ok folder.location) ∧
    stageAll folder v artifacts = (w, staged, none) ∧
    commitAll folder w ((staged.zip artifacts).take k) = (x, .ok moved) ∧
    (staged.zip artifacts)[k]? = some (loc, a) ∧ commit folder x loc a = .error fault

/-- The effect of a call that made its folder, from the effect of staging and moving. -/
theorem Moved.effect {text : String → String} {staged moved waiting : List Artifact}
    (hmake : t.makeFolders folder.path = (v, .ok folder.location))
    (h : folder.Moved text v u staged moved) (htext : ∀ a ∈ moved, text a.fileName = a.contents)
    (hwaiting : ∀ a ∈ waiting, ∀ b ∈ moved, b.fileName ≠ a.fileName) :
    folder.Effect t u staged moved waiting := by
  obtain ⟨hmore, hfolder⟩ := FileTree.makeFolders_spec hmake
  obtain ⟨hfault, hpath, -⟩ := hfolder folder.location rfl
  have hothers : ∀ l, (∀ a ∈ moved, l ≠ folder.target a) → (∀ a ∈ staged, l ≠ folder.slot a) →
      t.KeptAt u l := by
    intro l htargets hslots
    rw [FileTree.KeptAt, h.others l htargets hslots]
    exact hmore l
  have hwait : ∀ a ∈ waiting, ∀ b ∈ moved, folder.target a ≠ folder.target b :=
    fun a ha b hb heq => hwaiting a ha b hb (target_inj.mp heq).symm
  refine ⟨?_, ?_, h.slots, ?_, ?_, hothers⟩
  · rw [FileTree.resolve, FileTree.walk, hfault]
    exact h.folders.foldlM_eq_ok hpath
  · intro a ha
    rw [h.targets a ha, htext a ha]
  · exact fun a ha => hothers _ (hwait a ha) fun b _ => target_ne_slot
  · intro hup a ha
    rw [h.others _ (hwait a ha) fun b _ => target_ne_slot]
    -- the target is inside the folder, so it is not on the way to it
    by_contra hne
    have hprefix := FileTree.makeFolders_isPrefix hup hmake (folder.target a) hne
    have hlength := hprefix.length_le
    rw [target, List.length_append, List.length_singleton] at hlength
    omega

theorem Effect.steps {staged moved waiting : List Artifact}
    (h : folder.Effect t u staged moved waiting) :
    FileTree.pathFault? folder.path = none ∧
      (Text.split '/' folder.path).foldlM u.step [] = .ok folder.location := by
  have hleads := h.leads
  rw [FileTree.resolve, FileTree.walk] at hleads
  split at hleads
  · cases hleads
  · next hfault => exact ⟨hfault, hleads⟩

/-- After a pass that stages everything, every artifact has its text in its slot. -/
theorem staged_of_stageAll {w : FileTree} {staged : List Location}
    (hnames : ∀ a ∈ artifacts, Name.isIdentifier a.family = true)
    (hloc : t.isFolder folder.location = true)
    (h : stageAll folder t artifacts = (w, staged, none)) :
    (∀ a ∈ artifacts, folder.stageFault? t a = none) ∧ staged = artifacts.map folder.slot ∧
      folder.Staged t w artifacts := by
  obtain ⟨hfault, hslots, hstaged⟩ := stageAll_spec hnames hloc h
  have hfree : ∀ a ∈ artifacts, folder.stageFault? t a = none :=
    List.findSome?_eq_none_iff.mp hfault.symm
  have hall : (artifacts.takeWhile fun a => (folder.stageFault? t a).isNone) = artifacts :=
    List.takeWhile_eq_self_iff.mpr fun a ha => by simp [hfree a ha]
  rw [hall] at hslots hstaged
  exact ⟨hfree, hslots, hstaged⟩

/-- Moving some artifacts and discarding others. -/
theorem Moved.append {text text' : String → String} {front back moved : List Artifact}
    (h : folder.Moved text t u front moved) (hback : folder.Moved text' u v back []) :
    folder.Moved text t v (front ++ back) moved where
  folders := h.folders.trans hback.folders
  targets := by
    intro a ha
    rw [hback.others _ (by simp) fun b _ => target_ne_slot, h.targets a ha]
  slots := by
    intro a ha
    by_cases hslot : ∃ b ∈ back, folder.slot a = folder.slot b
    · obtain ⟨b, hb, heq⟩ := hslot
      rw [heq, hback.slots b hb]
    · push Not at hslot
      have hfront : a ∈ front :=
        (List.mem_append.mp ha).resolve_right fun hmem => hslot a hmem rfl
      rw [hback.others _ (by simp) hslot, h.slots a hfront]
  others := by
    intro l htargets hslots
    rw [hback.others l (by simp) fun b hb => hslots b (List.mem_append_right _ hb),
      h.others l htargets fun b hb => hslots b (List.mem_append_left _ hb)]

/-- A moving pass that succeeds returns the targets in order. -/
theorem targets_of_commitAll {more : List Artifact} :
    ∀ {t u : FileTree} {targets : List Location}, t.isFolder folder.location = true →
      (∀ a ∈ more, Name.isIdentifier a.family = true) →
      (∀ a ∈ more, nameFault? folder.path a.fileName = none) →
      commitAll folder t (more.map fun a => (folder.slot a, a)) = (u, .ok targets) →
        targets = more.map folder.target := by
  induction more with
  | nil =>
    intro t u targets _ _ _ h
    cases h
    rfl
  | cons a more ih =>
    intro t u targets hloc hids hplaces h
    obtain ⟨ha, hids⟩ := List.forall_mem_cons.mp hids
    obtain ⟨hplace, hplaces⟩ := List.forall_mem_cons.mp hplaces
    rw [List.map_cons, commitAll, commit_of_isFolder ha hloc hplace] at h
    cases hmove : t.rename (folder.slot a) (folder.target a) with
    | error fault =>
      rw [hmove] at h
      cases h
    | ok v =>
      rw [hmove] at h
      generalize hrest : commitAll folder v (more.map fun a => (folder.slot a, a)) = rest at h
      obtain ⟨w, written⟩ := rest
      simp only [Except.map, hrest] at h
      cases written with
      | error fault => cases h
      | ok targets' =>
        cases h
        have hv := ((FileTree.rename_effect hmove).1 folder.location).trans hloc
        rw [List.map_cons, ih hv hids hplaces hrest]

/-! ### The same call again -/

/-- A tree with the artifacts in their slots. -/
def withSlots (folder : Folder) (t : FileTree) (artifacts : List Artifact) : FileTree :=
  artifacts.foldl (fun t a => t.put (folder.slot a) (.file (.text a.contents))) t

theorem get?_withSlots {l : Location} : ∀ {artifacts : List Artifact} {t : FileTree},
    (∀ a ∈ artifacts, l ≠ folder.slot a) → (folder.withSlots t artifacts).get? l = t.get? l
  | [], _, _ => rfl
  | a :: more, t, h => by
    obtain ⟨ha, hmore⟩ := List.forall_mem_cons.mp h
    rw [withSlots, List.foldl_cons, ← withSlots, get?_withSlots hmore,
      FileTree.get?_put t slot_ne_nil, if_neg ha]

theorem sameFolders_withSlots : ∀ {artifacts : List Artifact} {t : FileTree},
    (∀ a ∈ artifacts, t.isFolder (folder.slot a) = false) →
      t.SameFolders (folder.withSlots t artifacts)
  | [], t, _ => .refl t
  | a :: more, t, h => by
    obtain ⟨ha, hmore⟩ := List.forall_mem_cons.mp h
    have hput := FileTree.sameFolders_put slot_ne_nil ha (.text a.contents)
    exact hput.trans (sameFolders_withSlots fun b hb => (hput _).trans (hmore b hb))

theorem erase_withSlots {l : Location} : ∀ {artifacts : List Artifact} {t : FileTree},
    (∀ a ∈ artifacts, l ≠ folder.slot a) →
      (folder.withSlots t artifacts).erase l = folder.withSlots (t.erase l) artifacts
  | [], _, _ => rfl
  | a :: more, t, h => by
    obtain ⟨ha, hmore⟩ := List.forall_mem_cons.mp h
    rw [withSlots, List.foldl_cons, ← withSlots, erase_withSlots hmore,
      FileTree.erase_put_comm (Ne.symm ha)]
    rfl

theorem stageAll_eq_withSlots : ∀ {artifacts : List Artifact} {t : FileTree},
    (∀ a ∈ artifacts, Name.isIdentifier a.family = true) → t.isFolder folder.location = true →
      (∀ a ∈ artifacts, folder.stageFault? t a = none) →
        stageAll folder t artifacts =
          (folder.withSlots t artifacts, artifacts.map folder.slot, none)
  | [], _, _, _, _ => rfl
  | a :: more, t, hnames, hloc, hfree => by
    obtain ⟨ha, hnames⟩ := List.forall_mem_cons.mp hnames
    obtain ⟨hfault, hfree⟩ := List.forall_mem_cons.mp hfree
    have hput := FileTree.sameFolders_put slot_ne_nil (stageFault?_eq_none.mp hfault).2
      (.text a.contents)
    have hrest := stageAll_eq_withSlots hnames ((hput _).trans hloc)
      (by rwa [stageFault?_congr hput])
    rw [stageAll, stage_of_isFolder ha hloc, hfault]
    simp only [hrest]
    rfl

/-- Moving artifacts from their slots over targets that hold their texts already brings
back the tree without the slots. -/
theorem commitAll_withSlots {t : FileTree} (hloc : t.isFolder folder.location = true) :
    ∀ {artifacts : List Artifact}, (∀ a ∈ artifacts, Name.isIdentifier a.family = true) →
      (∀ a ∈ artifacts, nameFault? folder.path a.fileName = none) →
      (artifacts.map (·.fileName)).Nodup →
      (∀ a ∈ artifacts, t.get? (folder.target a) = some (.file (.text a.contents))) →
      (∀ a ∈ artifacts, t.get? (folder.slot a) = none) →
        commitAll folder (folder.withSlots t artifacts)
          (artifacts.map fun a => (folder.slot a, a)) = (t, .ok (artifacts.map folder.target))
  | [], _, _, _, _, _ => rfl
  | a :: more, hnames, hplaces, hnodup, htargets, hslots => by
    have hfolders : t.SameFolders (folder.withSlots t (a :: more)) :=
      sameFolders_withSlots fun b hb => by
        rw [FileTree.isFolder_eq_false_iff, hslots b hb]
        simp
    obtain ⟨ha, hnames⟩ := List.forall_mem_cons.mp hnames
    obtain ⟨hplace, hplaces⟩ := List.forall_mem_cons.mp hplaces
    obtain ⟨htarget, htargets⟩ := List.forall_mem_cons.mp htargets
    obtain ⟨hslot, hslots⟩ := List.forall_mem_cons.mp hslots
    rw [List.map_cons, List.nodup_cons] at hnodup
    have hmore : ∀ b ∈ more, folder.slot a ≠ folder.slot b := fun b hb heq =>
      hnodup.1 (List.mem_map.mpr ⟨b, hb, (slot_inj.mp heq).symm⟩)
    have hfile : (folder.withSlots t (a :: more)).get? (folder.slot a) =
        some (.file (.text a.contents)) := by
      rw [withSlots, List.foldl_cons, ← withSlots, get?_withSlots hmore,
        FileTree.get?_put t slot_ne_nil, if_pos rfl]
    have hback : ((folder.withSlots t (a :: more)).erase (folder.slot a)).put (folder.target a)
        (.file (.text a.contents)) = folder.withSlots t more := by
      rw [withSlots, List.foldl_cons, ← withSlots, erase_withSlots hmore,
        FileTree.erase_put_of_get?_eq_none slot_ne_nil hslot]
      refine FileTree.put_eq_self (FileTree.ne_nil_of_get?_eq_file htarget) ?_
      rw [get?_withSlots fun b _ => target_ne_slot, htarget]
    have hmove : (folder.withSlots t (a :: more)).rename (folder.slot a) (folder.target a) =
        .ok (folder.withSlots t more) := by
      refine FileTree.rename_eq_ok.mpr ⟨_, hfile, ?_, ?_, hback.symm⟩
      · rw [target, List.dropLast_concat]
        exact (hfolders _).trans hloc
      · exact (hfolders _).trans (FileTree.isFolder_of_get?_eq_file htarget)
    rw [List.map_cons, commitAll, commit_of_isFolder ha ((hfolders _).trans hloc) hplace, hmove]
    simp only [Except.map, commitAll_withSlots hloc hnames hplaces hnodup.2 htargets hslots,
      List.map_cons]

/-! ### The complete effect -/

variable {fault : FileFault} {k : ℕ}

/-- A call that stops while it stages has removed what it staged. -/
theorem StagingFails.effect (hnames : ∀ a ∈ artifacts, Name.isIdentifier a.family = true)
    (h : folder.StagingFails t artifacts k fault) :
    ∃ u, persist t folder.path artifacts = (u, .error fault) ∧
      folder.Effect t u (artifacts.take k) [] artifacts := by
  obtain ⟨v, w, staged, a, hmake, hfront, hk, ha⟩ := h
  obtain ⟨hlt, hget⟩ := List.getElem?_eq_some_iff.mp hk
  have hsplit : artifacts.take k ++ a :: artifacts.drop (k + 1) = artifacts := by
    rw [← hget, ← List.drop_eq_getElem_cons hlt, List.take_append_drop]
  have hpersist : persist t folder.path artifacts = (discard w staged, .error fault) := by
    have hstops := stageAll_stops (artifacts.drop (k + 1)) hfront ha
    rw [hsplit] at hstops
    rw [persist_of_makeFolders hmake, hstops]
  obtain ⟨-, -, hloc⟩ := (FileTree.makeFolders_spec hmake).2 folder.location rfl
  obtain ⟨-, rfl, hstaged⟩ :=
    staged_of_stageAll (fun b hb => hnames b (List.mem_of_mem_take hb)) hloc hfront
  have hmoved := hstaged.trans_moved (hstaged.pending.moved_discard (stagedText artifacts))
  exact ⟨_, hpersist, hmoved.effect hmake (by simp) (by simp)⟩

/-- A call that stops while it moves has replaced the targets in front and removed the
staged files of the others. -/
theorem MovingFails.effect (hnames : ∀ a ∈ artifacts, Name.isIdentifier a.family = true)
    (hnodup : (artifacts.map (·.fileName)).Nodup) (h : folder.MovingFails t artifacts k fault) :
    ∃ u, persist t folder.path artifacts = (u, .error fault) ∧
      folder.Effect t u artifacts (artifacts.take k) (artifacts.drop k) := by
  obtain ⟨v, w, staged, x, moved, loc, a, hmake, hstage, hfront, hk, ha⟩ := h
  obtain ⟨-, -, hloc⟩ := (FileTree.makeFolders_spec hmake).2 folder.location rfl
  obtain ⟨hfree, rfl, hstaged⟩ := staged_of_stageAll hnames hloc hstage
  rw [zip_slots, ← List.map_take] at hfront
  rw [zip_slots, List.getElem?_map, Option.map_eq_some_iff] at hk
  obtain ⟨b, hk, hb⟩ := hk
  cases hb
  obtain ⟨hlt, hget⟩ := List.getElem?_eq_some_iff.mp hk
  have hdrop : artifacts.drop k = a :: artifacts.drop (k + 1) := by
    rw [← hget, ← List.drop_eq_getElem_cons hlt]
  have hpersist : persist t folder.path artifacts =
      (discard x ((artifacts.drop k).map folder.slot), .error fault) := by
    have hstops := commitAll_stops
      ((artifacts.drop (k + 1)).map fun a => (folder.slot a, a)) hfront ha
    rw [← List.map_cons (f := fun a => (folder.slot a, a)), ← hdrop, ← List.map_append,
      List.take_append_drop, List.map_map] at hstops
    rw [persist_of_makeFolders hmake, hstage]
    dsimp only
    rw [zip_slots, hstops, hdrop]
    rfl
  have htake : ∀ b ∈ artifacts.take k, b ∈ artifacts := fun b => List.mem_of_mem_take
  have happart : ∀ b ∈ artifacts.drop k, ∀ c ∈ artifacts.take k, c.fileName ≠ b.fileName := by
    intro b hb c hc heq
    have hdisjoint := hnodup
    rw [← List.take_append_drop k artifacts, List.map_append] at hdisjoint
    exact List.disjoint_of_nodup_append hdisjoint (List.mem_map_of_mem hc)
      (heq ▸ List.mem_map_of_mem hb)
  obtain ⟨hmoved, hall⟩ := commitAll_spec ((hstaged.folders _).trans hloc)
    (fun b hb => hnames b (htake b hb))
    (fun b hb => nameFault?_fileName (hnames b (htake b hb))
      (stageFault?_eq_none.mp (hfree b (htake b hb))).1)
    (fun b hb => hstaged.pending b (htake b hb)) hfront
  rw [hall.mp ⟨moved, rfl⟩] at hmoved
  -- the slots behind are as they were staged, since the moves in front left them alone
  have hpending : folder.Pending (stagedText artifacts) x [] (artifacts.drop k) := by
    intro b hb
    rw [hmoved.others _ (fun c _ => target_ne_slot.symm)
      fun c hc heq => happart b hb c hc (slot_inj.mp heq).symm]
    exact hstaged.pending b (List.mem_of_mem_drop hb)
  have hend := hmoved.append (hpending.moved_discard (stagedText artifacts))
  rw [List.take_append_drop] at hend
  exact ⟨_, hpersist, (hstaged.trans_moved hend).effect hmake
    (fun b hb => stagedText_of_nodup hnodup (htake b hb)) happart⟩

end Folder

section Persist

variable {t u : FileTree} {path : String} {artifacts : List Artifact}

/-- Where a call that fails has stopped. -/
theorem exists_fails_of_persist {fault : FileFault}
    (h : persist t path artifacts = (u, .error fault)) :
    t.makeFolders path = (u, .error fault) ∨ ∃ (folder : Folder) (k : ℕ), folder.path = path ∧
      (folder.StagingFails t artifacts k fault ∨ folder.MovingFails t artifacts k fault) := by
  cases hmake : t.makeFolders path with
  | mk v made =>
    cases made with
    | error first =>
      simp only [persist, hmake] at h
      cases h
      exact .inl rfl
    | ok loc =>
      obtain ⟨folder, rfl, rfl⟩ : ∃ folder : Folder, folder.path = path ∧ folder.location = loc :=
        ⟨⟨path, loc⟩, rfl, rfl⟩
      rw [persist_of_makeFolders hmake] at h
      generalize hstage : stageAll folder v artifacts = staging at h
      obtain ⟨w, staged, stopped⟩ := staging
      cases stopped with
      | some first =>
        cases h
        obtain ⟨k, a, hfront, hk, ha⟩ := exists_stage_eq_error hstage
        exact .inr ⟨folder, k, rfl, .inl ⟨v, w, staged, a, hmake, hfront, hk, ha⟩⟩
      | none =>
        obtain ⟨k, x, moved, l, a, hfront, hk, ha⟩ := exists_commit_eq_error h
        exact .inr ⟨folder, k, rfl,
          .inr ⟨v, w, staged, x, moved, l, a, hmake, hstage, hfront, hk, ha⟩⟩

/-- What a call that succeeds leaves behind, and what it returns. -/
theorem effect_of_persist_eq_ok {targets : List Location}
    (hnames : ∀ a ∈ artifacts, Name.isIdentifier a.family = true)
    (hnodup : (artifacts.map (·.fileName)).Nodup)
    (h : persist t path artifacts = (u, .ok targets)) :
    ∃ folder : Folder, folder.path = path ∧ folder.Effect t u artifacts artifacts [] ∧
      targets = artifacts.map folder.target ∧ u.isFolder folder.location = true ∧
      ∀ a ∈ artifacts, nameFault? folder.path a.stagingName = none := by
  cases hmake : t.makeFolders path with
  | mk v made =>
    cases made with
    | error first => simp [persist, hmake] at h
    | ok loc =>
      obtain ⟨folder, rfl, rfl⟩ : ∃ folder : Folder, folder.path = path ∧ folder.location = loc :=
        ⟨⟨path, loc⟩, rfl, rfl⟩
      obtain ⟨-, -, hloc⟩ := (FileTree.makeFolders_spec hmake).2 folder.location rfl
      rw [persist_of_makeFolders hmake] at h
      generalize hstage : stageAll folder v artifacts = staging at h
      obtain ⟨w, staged, stopped⟩ := staging
      cases stopped with
      | some first => cases h
      | none =>
        obtain ⟨hfree, rfl, hstaged⟩ := Folder.staged_of_stageAll hnames hloc hstage
        have hplaces : ∀ a ∈ artifacts, nameFault? folder.path a.stagingName = none :=
          fun a ha => (Folder.stageFault?_eq_none.mp (hfree a ha)).1
        have hplaces' : ∀ a ∈ artifacts, nameFault? folder.path a.fileName = none :=
          fun a ha => nameFault?_fileName (hnames a ha) (hplaces a ha)
        have hlocw := (hstaged.folders folder.location).trans hloc
        dsimp only at h
        rw [Folder.zip_slots] at h
        obtain ⟨hmoved, hall⟩ := Folder.commitAll_spec hlocw hnames hplaces' hstaged.pending h
        rw [hall.mp ⟨targets, rfl⟩] at hmoved
        refine ⟨folder, rfl, ?_, ?_, (hmoved.folders _).trans hlocw, hplaces⟩
        · exact (hstaged.trans_moved hmoved).effect hmake
            (fun a ha => stagedText_of_nodup hnodup ha) (by simp)
        · exact Folder.targets_of_commitAll hlocw hnames hplaces' h

/-- A call on a folder that has the targets and no staged files changes nothing. -/
theorem persist_eq_self {folder : Folder}
    (hnames : ∀ a ∈ artifacts, Name.isIdentifier a.family = true)
    (hnodup : (artifacts.map (·.fileName)).Nodup)
    (heffect : folder.Effect t u artifacts artifacts [])
    (hloc : u.isFolder folder.location = true)
    (hplaces : ∀ a ∈ artifacts, nameFault? folder.path a.stagingName = none) :
    persist u folder.path artifacts = (u, .ok (artifacts.map folder.target)) := by
  have hmake : u.makeFolders folder.path = (u, .ok folder.location) :=
    FileTree.makeFolders_eq_self heffect.steps.1 heffect.steps.2 hloc
  have hfree : ∀ a ∈ artifacts, folder.stageFault? u a = none := by
    intro a ha
    rw [Folder.stageFault?_eq_none, FileTree.isFolder_eq_false_iff, heffect.slots a ha]
    exact ⟨hplaces a ha, by simp⟩
  rw [persist_of_makeFolders hmake, Folder.stageAll_eq_withSlots hnames hloc hfree]
  dsimp only
  rw [Folder.zip_slots, Folder.commitAll_withSlots hloc hnames
    (fun a ha => nameFault?_fileName (hnames a ha) (hplaces a ha)) hnodup heffect.targets
    heffect.slots]

/-- **The complete effect of a call.**  A call that succeeds leaves every target with its
text and can be repeated without any change; one that stops while it stages or moves keeps
the targets that it had not come to; and there is no other way to fail once the folder is
there. -/
theorem persist_effect (t : FileTree) (path : String)
    (hnames : ∀ a ∈ artifacts, Name.isIdentifier a.family = true)
    (hnodup : (artifacts.map (·.fileName)).Nodup) :
    (∀ u targets, persist t path artifacts = (u, .ok targets) →
      ∃ folder : Folder, folder.path = path ∧ folder.Effect t u artifacts artifacts [] ∧
        targets = artifacts.map folder.target ∧
        (∀ a ∈ artifacts, u.resolve (a.pathIn path) = .ok (folder.target a)) ∧
        persist u path artifacts = (u, .ok targets)) ∧
    (∀ (folder : Folder) k fault, folder.path = path → folder.StagingFails t artifacts k fault →
      ∃ u, persist t path artifacts = (u, .error fault) ∧
        folder.Effect t u (artifacts.take k) [] artifacts) ∧
    (∀ (folder : Folder) k fault, folder.path = path → folder.MovingFails t artifacts k fault →
      ∃ u, persist t path artifacts = (u, .error fault) ∧
        folder.Effect t u artifacts (artifacts.take k) (artifacts.drop k)) ∧
    (∀ u fault, persist t path artifacts = (u, .error fault) →
      t.makeFolders path = (u, .error fault) ∨ ∃ (folder : Folder) (k : ℕ), folder.path = path ∧
        (folder.StagingFails t artifacts k fault ∨ folder.MovingFails t artifacts k fault)) := by
  refine ⟨?_, ?_, ?_, fun u fault => exists_fails_of_persist⟩
  · intro u targets h
    obtain ⟨folder, rfl, heffect, rfl, hloc, hplaces⟩ := effect_of_persist_eq_ok hnames hnodup h
    refine ⟨folder, rfl, heffect, rfl, ?_, persist_eq_self hnames hnodup heffect hloc hplaces⟩
    intro a ha
    rw [Artifact.pathIn, FileTree.resolve_of_plainName (Artifact.plainName_fileName (hnames a ha))
      heffect.steps.2 hloc, namePlace, nameFault?_fileName (hnames a ha) (hplaces a ha)]
    rfl
  · rintro folder k fault rfl h
    exact h.effect hnames
  · rintro folder k fault rfl h
    exact h.effect hnames hnodup

end Persist

/-- A folder that holds a folder in the place where the second module is staged. -/
def clutteredTree : FileTree :=
  (FileTree.empty.put ["out"] .folder).put ["out", ".stmt.rs.tmp"] .folder

/-- Two modules are put into a new folder; the second cannot be staged; the second cannot be
moved. -/
theorem persist_effect_twoModules :
    let folder : Folder := ⟨"out", ["out"]⟩
    ((∀ a ∈ twoModules, Name.isIdentifier a.family = true) ∧
      (twoModules.map (·.fileName)).Nodup) ∧
    (∃ u targets, persist FileTree.empty "out" twoModules = (u, .ok targets) ∧
      persist u "out" twoModules = (u, .ok targets)) ∧
    (folder.StagingFails clutteredTree twoModules 1 .isFolder ∧
      ∃ u, persist clutteredTree "out" twoModules = (u, .error .isFolder) ∧
        folder.Effect clutteredTree u (twoModules.take 1) [] twoModules) ∧
    (folder.MovingFails (blockedTree "stale") twoModules 1 .isFolder ∧
      ∃ u, persist (blockedTree "stale") "out" twoModules = (u, .error .isFolder) ∧
        folder.Effect (blockedTree "stale") u twoModules (twoModules.take 1)
          (twoModules.drop 1)) := by
  have hnames : ∀ a ∈ twoModules, Name.isIdentifier a.family = true := by decide
  have hnodup : (twoModules.map (·.fileName)).Nodup := by decide
  refine ⟨⟨hnames, hnodup⟩, ?_, ?_, ?_⟩
  · have h : persist FileTree.empty "out" twoModules = (_, .ok _) := rfl
    obtain ⟨_, -, -, -, -, hagain⟩ := (persist_effect FileTree.empty "out" hnames hnodup).1 _ _ h
    exact ⟨_, _, h, hagain⟩
  · have h : Folder.StagingFails ⟨"out", ["out"]⟩ clutteredTree twoModules 1 .isFolder :=
      ⟨_, _, _, _, rfl, rfl, rfl, rfl⟩
    exact ⟨h, (persist_effect clutteredTree "out" hnames hnodup).2.1 _ _ _ rfl h⟩
  · have h : Folder.MovingFails ⟨"out", ["out"]⟩ (blockedTree "stale") twoModules 1 .isFolder :=
      ⟨_, _, _, _, _, _, _, rfl, rfl, rfl, rfl, rfl⟩
    exact ⟨h, (persist_effect (blockedTree "stale") "out" hnames hnodup).2.2.1 _ _ _ rfl h⟩

/-- A call that stops while it stages can leave a folder at a target: the path goes into the
target and up again. -/
theorem not_forall_target_kept :
    ¬ ∀ (t u : FileTree) (folder : Folder) (artifacts : List Artifact) (k : ℕ)
        (fault : FileFault),
      (∀ a ∈ artifacts, Name.isIdentifier a.family = true) →
      (artifacts.map (·.fileName)).Nodup → folder.StagingFails t artifacts k fault →
      persist t folder.path artifacts = (u, .error fault) →
        ∀ a ∈ artifacts, u.get? (folder.target a) = t.get? (folder.target a) := by
  intro h
  have hkept := h ((FileTree.empty.put ["out"] .folder).put ["out", ".expr.rs.tmp"] .folder) _
    ⟨"out/expr.rs/..", ["out"]⟩ [⟨"Expr", "fresh"⟩] 0 .isFolder (by decide) (by decide)
    ⟨_, _, _, _, rfl, rfl, rfl, rfl⟩ rfl ⟨"Expr", "fresh"⟩ List.mem_cons_self
  revert hkept
  decide

end TreeSmith
