import TreeSmith.Proofs.FileTree
import TreeSmith.Proofs.Lines

/-!
# Where a path leads

A path is cut at its slashes and followed name by name, and every step starts from a
folder.  So where a path leads depends on the folders alone, and a tree with more
folders leads every path that led somewhere to the same place.  Making the folders of a
path adds folders and nothing else, and leaves a tree in which the path leads to a
folder.

## Main definitions

* `FileTree.holds?` — what stands at the end of a path.
* `FileTree.MoreFolders` — a tree with some folders added.

## Main results

* `FileTree.resolve_joinPath` — a name after a path is one more step.
* `FileTree.holds?_eq_bind` — a path holds what stands at the place it leads to.
* `FileTree.foldlM_step_mono` — names lead to the same place when folders are added.
* `FileTree.makeFolders_spec` — the tree after making the folders of a path.
-/

namespace TreeSmith

/-! ### Cutting a path -/

open Text (split split_of_notMem split_append_cons)

/-- A name after a path is one more piece, in the place of an empty last one if there is
such a piece. -/
theorem split_joinPath (path : String) {name : String} (hname : '/' ∉ name.toList) :
    (∃ names, split '/' path = names ++ [""] ∧
      split '/' (joinPath path name) = names ++ [name]) ∨
    split '/' (joinPath path name) = split '/' path ++ [name] := by
  unfold joinPath
  split
  · next h =>
    subst h
    exact .inl ⟨[], split_of_notMem (by simp), split_of_notMem hname⟩
  · split
    · next h =>
      obtain ⟨front, hfront⟩ := List.getLast?_eq_some_iff.mp h
      have hpath : path = String.ofList (front ++ '/' :: []) := by rw [← hfront, String.ofList_toList]
      refine .inl ⟨split '/' (String.ofList front), ?_, ?_⟩
      · rw [hpath, split_append_cons]
        rfl
      · have hjoin : path ++ name = String.ofList (front ++ '/' :: name.toList) := by
          rw [← String.toList_inj, String.toList_append, hfront]
          simp
        rw [hjoin, split_append_cons, String.ofList_toList, split_of_notMem hname]
    · have hjoin : path ++ "/" ++ name = String.ofList (path.toList ++ '/' :: name.toList) := by
        rw [← String.toList_inj, String.toList_append, String.toList_append]
        simp
      rw [hjoin, split_append_cons, String.ofList_toList, String.ofList_toList,
        split_of_notMem hname]
      exact .inr rfl

namespace FileTree

/-! ### Following names -/

theorem isFolder_of_step {t : FileTree} {l l' : Location} {name : String}
    (h : t.step l name = .ok l') : t.isFolder l = true := by
  rw [isFolder_iff]
  unfold step at h
  split at h
  · cases h
  · cases h
  · assumption

/-- An empty name in front of another changes nothing. -/
theorem step_empty_bind (t : FileTree) (l : Location) (name : String) :
    (t.step l "" >>= fun l' => t.step l' name) = t.step l name := by
  cases h : t.get? l with
  | none => simp [step, h]
  | some e => cases e <;> simp [step, h]

theorem resolve_joinPath {t : FileTree} {path name : String} (hname : '/' ∉ name.toList)
    (hfault : pathFault? (joinPath path name) = none) :
    t.resolve (joinPath path name) =
      ((split '/' path).foldlM t.step [] >>= fun l => t.step l name) := by
  simp only [resolve, walk, hfault]
  rcases split_joinPath path hname with ⟨names, hpath, hjoin⟩ | hjoin
  · rw [hjoin, hpath, List.foldlM_append, List.foldlM_append]
    simp [bind_assoc, step_empty_bind]
  · rw [hjoin, List.foldlM_append]
    simp

/-- Where a step from a folder leads. -/
def stepFrom (l : Location) (name : String) : Except FileFault Location :=
  if name = "" || name = "." then .ok l
  else if name = ".." then .ok l.dropLast
  else if maxNameBytes < name.utf8ByteSize then .error .tooLong
  else .ok (l ++ [name])

theorem step_of_isFolder {t : FileTree} {l : Location} (h : t.isFolder l = true)
    (name : String) : t.step l name = stepFrom l name := by
  rw [isFolder_iff] at h
  simp [step, stepFrom, h]

/-- A step that can be taken can be taken in any tree with the same folders or more. -/
theorem step_mono {t u : FileTree} (h : ∀ l, t.isFolder l = true → u.isFolder l = true)
    {l l' : Location} {name : String} (hstep : t.step l name = .ok l') : u.step l name = .ok l' := by
  have hfolder := isFolder_of_step hstep
  rw [step_of_isFolder (h l hfolder), ← step_of_isFolder hfolder, hstep]

/-- Names that lead somewhere lead there in any tree with the same folders or more. -/
theorem foldlM_step_mono {t u : FileTree} (h : ∀ l, t.isFolder l = true → u.isFolder l = true)
    {names : List String} :
    ∀ {l l' : Location}, names.foldlM t.step l = .ok l' → names.foldlM u.step l = .ok l' := by
  induction names with
  | nil => intro l l' hl; exact hl
  | cons name names ih =>
    intro l l' hl
    rw [List.foldlM_cons, bind_eq_ok] at hl ⊢
    obtain ⟨next, hstep, hrest⟩ := hl
    exact ⟨next, step_mono h hstep, ih hrest⟩

theorem SameFolders.foldlM_eq_ok {t u : FileTree} (h : t.SameFolders u) {names : List String}
    {l l' : Location} (hl : names.foldlM t.step l = .ok l') : names.foldlM u.step l = .ok l' :=
  foldlM_step_mono (fun l hfolder => (h l).trans hfolder) hl

/-- What stands at the end of a path, if it leads anywhere. -/
def holds? (t : FileTree) (path : String) : Option Entry :=
  (t.findAt path).toOption

theorem holds?_eq_bind (t : FileTree) (path : String) :
    t.holds? path = (t.resolve path).toOption.bind t.get? := by
  unfold holds? findAt
  cases t.resolve path with
  | error fault => rfl
  | ok l =>
    simp only [ok_bind, find, Except.toOption, Option.bind_some]
    cases t.get? l <;> rfl

/-! ### More folders -/

/-- The second tree has the same as the first and maybe some more folders. -/
def MoreFolders (t u : FileTree) : Prop :=
  ∀ l, u.get? l = t.get? l ∨ (t.get? l = none ∧ u.get? l = some .folder)

theorem MoreFolders.refl (t : FileTree) : t.MoreFolders t := fun _ => .inl rfl

theorem MoreFolders.trans {t u v : FileTree} (htu : t.MoreFolders u) (huv : u.MoreFolders v) :
    t.MoreFolders v := by
  intro l
  rcases huv l with hv | ⟨hu, hv⟩
  · rw [hv]; exact htu l
  · rcases htu l with ht | ⟨-, hfolder⟩
    · exact .inr ⟨ht ▸ hu, hv⟩
    · rw [hfolder] at hu; cases hu

theorem MoreFolders.isFolder {t u : FileTree} (h : t.MoreFolders u) {l : Location}
    (hl : t.isFolder l = true) : u.isFolder l = true := by
  rw [isFolder_iff] at hl ⊢
  rcases h l with hu | ⟨hnone, -⟩
  · rw [hu, hl]
  · rw [hl] at hnone; cases hnone

theorem moreFolders_put {t : FileTree} {loc : Location} (h : t.get? loc = none) :
    t.MoreFolders (t.put loc .folder) := by
  have hloc : loc ≠ [] := by rintro rfl; cases h
  intro l
  rw [get?_put t hloc]
  split
  · next heq => exact .inr ⟨heq ▸ h, rfl⟩
  · exact .inl rfl

theorem MoreFolders.foldlM_eq_ok {t u : FileTree} (h : t.MoreFolders u) {names : List String}
    {l l' : Location} (hl : names.foldlM t.step l = .ok l') : names.foldlM u.step l = .ok l' :=
  foldlM_step_mono (fun _ => h.isFolder) hl

/-- Adding folders takes nothing away from a path that led to something. -/
theorem MoreFolders.holds?_eq_some {t u : FileTree} (h : t.MoreFolders u) {path : String}
    {e : Entry} (he : t.holds? path = some e) : u.holds? path = some e := by
  rw [holds?_eq_bind, Option.bind_eq_some_iff] at he ⊢
  obtain ⟨l, hl, hget⟩ := he
  refine ⟨l, ?_, ?_⟩
  · simp only [resolve, walk] at hl ⊢
    split at hl
    · cases hl
    · cases hfold : (split '/' path).foldlM t.step [] with
      | error fault => rw [hfold] at hl; cases hl
      | ok l' =>
        rw [hfold] at hl
        rw [h.foldlM_eq_ok hfold, hl]
  · rcases h l with hu | ⟨hnone, -⟩
    · rw [hu, hget]
    · rw [hget] at hnone; cases hnone

/-! ### Making folders -/

/-- Going along names and making folders leads to where the names lead afterwards. -/
theorem makeSteps_spec {names : List String} :
    ∀ {t u : FileTree} {loc : Location} {result : Except FileFault Location},
      t.makeSteps loc names = (u, result) → t.MoreFolders u ∧
        ∀ l, result = .ok l → t.isFolder loc = true →
          names.foldlM u.step loc = .ok l ∧ u.isFolder l = true := by
  induction names with
  | nil =>
    rintro t u loc result h
    obtain ⟨rfl, rfl⟩ := Prod.mk.inj h
    refine ⟨.refl t, fun l hl hloc => ?_⟩
    obtain rfl := Except.ok.inj hl
    exact ⟨rfl, hloc⟩
  | cons name names ih =>
    intro t u loc result h
    simp only [makeSteps] at h
    split at h
    · obtain ⟨rfl, rfl⟩ := Prod.mk.inj h
      exact ⟨.refl t, fun l hl => nomatch hl⟩
    · next next hstep =>
      split at h
      · obtain ⟨rfl, rfl⟩ := Prod.mk.inj h
        exact ⟨.refl t, fun l hl => nomatch hl⟩
      · next hnext =>
        obtain ⟨hmore, hrest⟩ := ih h
        refine ⟨hmore, fun l hl _ => ?_⟩
        obtain ⟨hl, hfolder⟩ := hrest l hl (isFolder_iff.mpr hnext)
        -- the step was taken before the folders after it were made
        rw [List.foldlM_cons, step_mono (fun _ => hmore.isFolder) hstep]
        exact ⟨hl, hfolder⟩
      · next hnext =>
        have hnil : next ≠ [] := by rintro rfl; cases hnext
        obtain ⟨hmore, hrest⟩ := ih h
        have hmore : t.MoreFolders u := (moreFolders_put hnext).trans hmore
        refine ⟨hmore, fun l hl _ => ?_⟩
        have hput : (t.put next .folder).isFolder next = true := by
          rw [isFolder_iff, get?_put t hnil, if_pos rfl]
        obtain ⟨hl, hfolder⟩ := hrest l hl hput
        rw [List.foldlM_cons, step_mono (fun _ => hmore.isFolder) hstep]
        exact ⟨hl, hfolder⟩

/-- Empty names and dots at a folder stay there. -/
theorem foldlM_stays {t : FileTree} {l : Location} (hl : t.isFolder l = true)
    {stays : List String} (h : ∀ name ∈ stays, name = "" ∨ name = ".") :
    stays.foldlM t.step l = .ok l := by
  induction stays with
  | nil => rfl
  | cons name stays ih =>
    have hstep : t.step l name = .ok l := by
      rw [step_of_isFolder hl, stepFrom]
      rcases h name List.mem_cons_self with rfl | rfl <;> rfl
    rw [List.foldlM_cons, hstep]
    exact ih fun name' hname' => h name' (List.mem_cons_of_mem _ hname')

theorem exists_stays (names : List String) :
    ∃ stays, names = withoutStays names ++ stays ∧ ∀ name ∈ stays, name = "" ∨ name = "." := by
  refine ⟨(names.reverse.takeWhile fun name => name = "" || name = ".").reverse, ?_, ?_⟩
  · rw [withoutStays, ← List.reverse_append, List.takeWhile_append_dropWhile, List.reverse_reverse]
  · intro name hname
    simpa using List.all_eq_true.mp List.all_takeWhile name (List.mem_reverse.mp hname)

theorem stepToFolder_eq_ok {t : FileTree} {loc l : Location} {name : String} :
    t.stepToFolder loc name = .ok l ↔ t.step loc name = .ok l ∧ t.isFolder l = true := by
  simp only [stepToFolder, bind_eq_ok, isFolder_iff]
  constructor
  · rintro ⟨next, hstep, hnext⟩
    split at hnext
    · next hfolder =>
      obtain rfl := Except.ok.inj hnext
      exact ⟨hstep, hfolder⟩
    · cases hnext
    · cases hnext
  · rintro ⟨hstep, hfolder⟩
    exact ⟨l, hstep, by rw [hfolder]; rfl⟩

/-- Making the folders of a path adds folders and nothing else, and where it succeeds
the path leads to a folder afterwards. -/
theorem makeFolders_spec {t u : FileTree} {path : String} {result : Except FileFault Location}
    (h : t.makeFolders path = (u, result)) : t.MoreFolders u ∧
      ∀ l, result = .ok l → pathFault? path = none ∧
        (split '/' path).foldlM u.step [] = .ok l ∧ u.isFolder l = true := by
  unfold makeFolders at h
  split at h
  · obtain ⟨rfl, rfl⟩ := Prod.mk.inj h
    exact ⟨.refl t, fun l hl => nomatch hl⟩
  · next hfault =>
    dsimp only at h
    split at h
    · -- a dot at the end: the last folder before it has to be there
      obtain ⟨stays, hnames, hstays⟩ := exists_stays (split '/' path)
      rcases List.eq_nil_or_concat (withoutStays (split '/' path)) with hkept | ⟨front, last, hkept⟩
      · rw [hkept] at h hnames
        obtain ⟨rfl, rfl⟩ := Prod.mk.inj h
        refine ⟨.refl t, fun l hl => ⟨hfault, ?_⟩⟩
        obtain rfl := Except.ok.inj hl
        rw [hnames, List.nil_append]
        exact ⟨foldlM_stays rfl hstays, rfl⟩
      · rw [hkept, List.concat_eq_append] at h hnames
        rw [List.dropLast_concat, List.getLast?_concat] at h
        cases hmake : t.makeSteps [] front with
        | mk v made =>
          obtain ⟨hmore, hloc⟩ := makeSteps_spec hmake
          cases made with
          | error fault =>
            rw [hmake] at h
            obtain ⟨rfl, rfl⟩ := Prod.mk.inj h
            exact ⟨hmore, fun l hl => nomatch hl⟩
          | ok loc =>
            rw [hmake] at h
            obtain ⟨rfl, rfl⟩ := Prod.mk.inj h
            refine ⟨hmore, fun l hl => ⟨hfault, ?_⟩⟩
            obtain ⟨hstep, hfolder⟩ := stepToFolder_eq_ok.mp hl
            obtain ⟨hloc, -⟩ := hloc loc rfl rfl
            rw [hnames, List.foldlM_append, List.foldlM_append, hloc]
            simp only [ok_bind, List.foldlM_cons, List.foldlM_nil, hstep]
            exact ⟨foldlM_stays hfolder hstays, hfolder⟩
    · obtain ⟨hmore, hrest⟩ := makeSteps_spec h
      exact ⟨hmore, fun l hl => ⟨hfault, hrest l hl rfl⟩⟩

end FileTree

end TreeSmith
