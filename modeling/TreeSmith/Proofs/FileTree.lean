import TreeSmith.Files.Tree
import TreeSmith.Proofs.Fallible

/-!
# What stands where

How the operations on a file tree change what stands at a place.  Each of them changes
one or two places and leaves the others alone, and none of those on files turns a
folder into something else or makes one.

## Main definitions

* `FileTree.SameFolders` — two trees have the same folders.

## Main results

* `get?_put`, `get?_erase` — what stands at a place after putting or erasing.
* `rename_eq_ok`, `remove_eq_ok` — when files can be moved and removed, and the tree
  after it.
* `rename_effect`, `remove_effect` — what stands where after moving and removing.
-/

namespace TreeSmith.FileTree

/-! ### Putting and erasing -/

theorem find?_putEntry (loc l : Location) (e : Entry) (entries : List (Location × Entry)) :
    (putEntry loc e entries).find? (·.1 == l) =
      if l = loc then some (loc, e) else entries.find? (·.1 == l) := by
  induction entries with
  | nil =>
    by_cases h : l = loc
    · simp [putEntry, h]
    · simp [putEntry, h, Ne.symm h]
  | cons entry more ih =>
    by_cases hentry : entry.1 = loc
    · by_cases h : l = loc
      · simp [putEntry, hentry, h]
      · simp [putEntry, hentry, h, Ne.symm h]
    · simp only [putEntry, hentry, if_false, List.find?_cons, ih]
      by_cases h : l = loc
      · subst h; simp [beq_eq_false_iff_ne.mpr hentry]
      · simp [h]

@[simp] theorem get?_nil (t : FileTree) : t.get? [] = some .folder := rfl

theorem get?_put (t : FileTree) {loc : Location} (hloc : loc ≠ []) (e : Entry) (l : Location) :
    (t.put loc e).get? l = if l = loc then some e else t.get? l := by
  by_cases hl : l = []
  · subst hl; simp [Ne.symm hloc]
  · simp only [get?, put, hl, if_false, find?_putEntry]
    split <;> rfl

theorem get?_erase (t : FileTree) {loc : Location} (hloc : loc ≠ []) (l : Location) :
    (t.erase loc).get? l = if l = loc then none else t.get? l := by
  by_cases hl : l = []
  · subst hl; simp [Ne.symm hloc]
  · simp only [get?, erase, hl, if_false, List.find?_filter]
    by_cases h : l = loc
    · subst h
      simp
    · rw [if_neg h]
      congr 2
      funext entry
      by_cases hentry : entry.1 = l
      · simp [hentry, h]
      · simp [hentry]

/-! ### Folders -/

theorem isFolder_iff {t : FileTree} {l : Location} :
    t.isFolder l = true ↔ t.get? l = some .folder := by
  simp [isFolder]

theorem isFolder_eq_false_iff {t : FileTree} {l : Location} :
    t.isFolder l = false ↔ t.get? l ≠ some .folder := by
  rw [← Bool.not_eq_true, isFolder_iff]

/-- The trees have the same folders. -/
def SameFolders (t u : FileTree) : Prop :=
  ∀ l, u.isFolder l = t.isFolder l

theorem SameFolders.refl (t : FileTree) : t.SameFolders t := fun _ => rfl

theorem SameFolders.trans {t u v : FileTree} (htu : t.SameFolders u) (huv : u.SameFolders v) :
    t.SameFolders v := fun l => (huv l).trans (htu l)

/-- A file in a place without a folder makes no difference to the folders. -/
theorem sameFolders_put {t : FileTree} {loc : Location} (hloc : loc ≠ [])
    (hfolder : t.isFolder loc = false) (content : Content) :
    t.SameFolders (t.put loc (.file content)) := by
  intro l
  by_cases h : l = loc
  · subst h
    rw [hfolder, isFolder_eq_false_iff, get?_put t hloc, if_pos rfl]
    simp
  · rw [isFolder, isFolder, get?_put t hloc, if_neg h]

theorem sameFolders_erase {t : FileTree} {loc : Location} (hloc : loc ≠ [])
    (hfolder : t.isFolder loc = false) : t.SameFolders (t.erase loc) := by
  intro l
  by_cases h : l = loc
  · subst h
    rw [hfolder, isFolder_eq_false_iff, get?_erase t hloc, if_pos rfl]
    simp
  · rw [isFolder, isFolder, get?_erase t hloc, if_neg h]

/-! ### Operations on files -/

theorem readContent_eq_ok {t : FileTree} {loc : Location} {content : Content} :
    t.readContent loc = .ok content ↔ t.get? loc = some (.file content) := by
  unfold readContent find
  cases t.get? loc with
  | none => simp
  | some e => cases e <;> simp

theorem rename_eq_ok {t t' : FileTree} {source target : Location} :
    t.rename source target = .ok t' ↔ ∃ content, t.get? source = some (.file content) ∧
      t.isFolder target.dropLast = true ∧ t.isFolder target = false ∧
      t' = (t.erase source).put target (.file content) := by
  simp only [← readContent_eq_ok]
  unfold rename checkParent
  cases t.readContent source with
  | error fault => simp
  | ok content =>
    cases t.isFolder target.dropLast <;> cases t.isFolder target <;> simp [eq_comm]

theorem remove_eq_ok {t t' : FileTree} {loc : Location} :
    t.remove loc = .ok t' ↔ (∃ content, t.get? loc = some (.file content)) ∧
      t' = t.erase loc := by
  simp only [← readContent_eq_ok]
  unfold remove
  cases t.readContent loc <;> simp [eq_comm]

theorem ne_nil_of_get?_eq_file {t : FileTree} {loc : Location} {content : Content}
    (h : t.get? loc = some (.file content)) : loc ≠ [] := by
  rintro rfl
  cases h

theorem isFolder_of_get?_eq_file {t : FileTree} {loc : Location} {content : Content}
    (h : t.get? loc = some (.file content)) : t.isFolder loc = false := by
  rw [isFolder_eq_false_iff, h]
  simp

/-- Removing a file empties its place. -/
theorem remove_effect {t t' : FileTree} {loc : Location} (h : t.remove loc = .ok t') :
    t.SameFolders t' ∧ ∀ l, t'.get? l = if l = loc then none else t.get? l := by
  obtain ⟨⟨content, hfile⟩, rfl⟩ := remove_eq_ok.mp h
  have hnil := ne_nil_of_get?_eq_file hfile
  exact ⟨sameFolders_erase hnil (isFolder_of_get?_eq_file hfile), get?_erase t hnil⟩

/-- Moving a file takes what it holds to its new place. -/
theorem rename_effect {t t' : FileTree} {source target : Location}
    (h : t.rename source target = .ok t') :
    t.SameFolders t' ∧ ∃ content, t.get? source = some (.file content) ∧ ∀ l, t'.get? l =
      if l = target then some (.file content) else if l = source then none else t.get? l := by
  obtain ⟨content, hfile, -, htarget, rfl⟩ := rename_eq_ok.mp h
  have hsource := ne_nil_of_get?_eq_file hfile
  have hnil : target ≠ [] := by rintro rfl; cases htarget
  have herase := sameFolders_erase hsource (isFolder_of_get?_eq_file hfile)
  refine ⟨herase.trans (sameFolders_put hnil ((herase target).trans htarget) content),
    content, hfile, fun l => ?_⟩
  rw [get?_put _ hnil, get?_erase t hsource]

end TreeSmith.FileTree
