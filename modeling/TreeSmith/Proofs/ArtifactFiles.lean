import Mathlib
import TreeSmith.Artifact
import TreeSmith.Proofs.Paths

/-!
# The files of artifacts

An artifact has two names in its folder, that of its module and that of the file in
which it is staged.  When its family is named by an identifier, both are plain names:
one step into the folder and nothing else.  The two never coincide, not even for
different artifacts, and the first leads somewhere whenever the second does.

## Main definitions

* `PlainName` — a name that is one step into a folder.
* `nameFault?` — why a plain name leads nowhere in a folder.
* `Folder.target`, `Folder.slot` — the places of an artifact.

## Main results

* `Artifact.plainName_fileName`, `Artifact.plainName_stagingName` — the names of an
  artifact are plain.
* `Folder.place_of_plainName`, `FileTree.resolve_of_plainName` — where plain names lead.
* `Folder.target_ne_slot`, `Folder.target_inj`, `Folder.slot_inj` — when two places of
  artifacts coincide.
-/

namespace TreeSmith

open FileTree (pathFault? maxNameBytes maxPathBytes)

/-! ### Plain names -/

theorem Name.isPart_of_mem_snakeFrom {cs : List Char} (h : ∀ c ∈ cs, isPart c = true) :
    ∀ {small : Bool}, ∀ c ∈ snakeFrom small cs, isPart c = true := by
  induction cs with
  | nil => intro small c hc; cases hc
  | cons d cs ih =>
    have hrest := @ih fun c hc => h c (List.mem_cons_of_mem _ hc)
    have hd := h d List.mem_cons_self
    have hunderscore : isPart '_' = true := rfl
    have hlower : d.isUpper = true → isPart d.toLower = true := by
      intro hup
      have halpha : d.toLower.isAlpha = true := by
        rw [Char.isAlpha_toLower_eq_isAlpha, Char.isAlpha, hup, Bool.true_or]
      rw [isPart, Char.isAlphanum, halpha, Bool.true_or, Bool.true_or]
    intro small
    simp only [snakeFrom]
    split
    · next hup => split <;> simpa [hlower hup, hunderscore] using hrest
    · split
      · simpa [hunderscore] using hrest
      · simpa [hd] using hrest

/-- The name is one step into a folder: it neither stays nor goes up, and no path can
be cut inside it. -/
structure PlainName (name : String) : Prop where
  slash : '/' ∉ name.toList
  nul : '\x00' ∉ name.toList
  ne_empty : name ≠ ""
  ne_dot : name ≠ "."
  ne_dots : name ≠ ".."

namespace Artifact

theorem toList_fileName (a : Artifact) :
    a.fileName.toList = Name.snakeFrom false a.family.toList ++ ['.', 'r', 's'] := by
  simp [fileName, Name.artifactFile, Name.snakeCase, String.toList_append]

theorem toList_stagingName (a : Artifact) :
    a.stagingName.toList = '.' :: (a.fileName.toList ++ ['.', 't', 'm', 'p']) := by
  simp [stagingName, String.toList_append]

theorem getLast?_fileName (a : Artifact) : a.fileName.toList.getLast? = some 's' := by
  simp [toList_fileName]

theorem getLast?_stagingName (a : Artifact) : a.stagingName.toList.getLast? = some 'p' := by
  simp [toList_stagingName, List.getLast?_cons]

theorem mem_fileName {a : Artifact} (h : Name.isIdentifier a.family = true) {c : Char}
    (hc : c ∈ a.fileName.toList) : Name.isPart c = true ∨ c = '.' := by
  rw [toList_fileName, List.mem_append] at hc
  rcases hc with hc | hc
  · exact .inl (Name.isPart_of_mem_snakeFrom (Name.isPart_of_isIdentifier h) c hc)
  · simp only [List.mem_cons, List.not_mem_nil, or_false] at hc
    rcases hc with rfl | rfl | rfl
    · exact .inr rfl
    · exact .inl rfl
    · exact .inl rfl

theorem plainName_fileName {a : Artifact} (h : Name.isIdentifier a.family = true) :
    PlainName a.fileName where
  slash hc := absurd (mem_fileName h hc) (by decide)
  nul hc := absurd (mem_fileName h hc) (by decide)
  ne_empty heq := absurd (heq ▸ a.getLast?_fileName) (by decide)
  ne_dot heq := absurd (heq ▸ a.getLast?_fileName) (by decide)
  ne_dots heq := absurd (heq ▸ a.getLast?_fileName) (by decide)

theorem plainName_stagingName {a : Artifact} (h : Name.isIdentifier a.family = true) :
    PlainName a.stagingName where
  slash hc := by
    have := (plainName_fileName h).slash
    simp [toList_stagingName, this] at hc
  nul hc := by
    have := (plainName_fileName h).nul
    simp [toList_stagingName, this] at hc
  ne_empty heq := absurd (heq ▸ a.getLast?_stagingName) (by decide)
  ne_dot heq := absurd (heq ▸ a.getLast?_stagingName) (by decide)
  ne_dots heq := absurd (heq ▸ a.getLast?_stagingName) (by decide)

theorem fileName_ne_stagingName (a b : Artifact) : a.fileName ≠ b.stagingName := by
  intro h
  have hlast := a.getLast?_fileName
  rw [h, getLast?_stagingName] at hlast
  exact absurd hlast (by decide)

theorem pathIn_congr (path : String) {a b : Artifact} (h : a.fileName = b.fileName) :
    a.pathIn path = b.pathIn path := by
  rw [pathIn, pathIn, h]

theorem stagingName_inj {a b : Artifact} :
    a.stagingName = b.stagingName ↔ a.fileName = b.fileName := by
  rw [← String.toList_inj, toList_stagingName, toList_stagingName, List.cons.injEq,
    List.append_left_inj, String.toList_inj]
  simp

end Artifact

/-! ### Where plain names lead -/

theorem joinPath_eq_append (path name : String) : joinPath path name = joinPath path "" ++ name := by
  unfold joinPath
  split
  · simp
  · split <;> simp

theorem FileTree.pathFault?_eq_none {path : String} :
    pathFault? path = none ↔ '\x00' ∉ path.toList ∧ path.utf8ByteSize ≤ maxPathBytes := by
  unfold pathFault?
  split
  · next h => simp_all
  · next h => split <;> simp_all

/-- Why a plain name leads nowhere in the folder at a path, if it does. -/
def nameFault? (path name : String) : Option FileFault :=
  (pathFault? (joinPath path name)).or
    (if maxNameBytes < name.utf8ByteSize then some .tooLong else none)

theorem nameFault?_eq_none {path name : String} :
    nameFault? path name = none ↔ '\x00' ∉ (joinPath path "").toList ∧ '\x00' ∉ name.toList ∧
      (joinPath path "").utf8ByteSize + name.utf8ByteSize ≤ maxPathBytes ∧
      name.utf8ByteSize ≤ maxNameBytes := by
  rw [nameFault?, Option.or_eq_none_iff, FileTree.pathFault?_eq_none, joinPath_eq_append,
    String.toList_append, String.utf8ByteSize_append, List.mem_append, not_or]
  simp [and_assoc]

/-- A module can be placed where it can be staged. -/
theorem nameFault?_fileName {path : String} {a : Artifact} (ha : Name.isIdentifier a.family = true)
    (h : nameFault? path a.stagingName = none) : nameFault? path a.fileName = none := by
  have hsize : a.fileName.utf8ByteSize ≤ a.stagingName.utf8ByteSize := by
    rw [Artifact.stagingName, String.utf8ByteSize_append, String.utf8ByteSize_append]
    omega
  rw [nameFault?_eq_none] at h ⊢
  obtain ⟨hpath, -, hjoin, hname⟩ := h
  exact ⟨hpath, (Artifact.plainName_fileName ha).nul, by omega, by omega⟩

/-- Where a plain name in the folder at a path leads. -/
def namePlace (path : String) (loc : Location) (name : String) : Except FileFault Location :=
  match nameFault? path name with
  | some fault => .error fault
  | none => .ok (loc ++ [name])

section Place

variable {t : FileTree} {path name : String}

theorem FileTree.step_of_plainName {loc : Location} (hname : PlainName name)
    (hloc : t.isFolder loc = true) (hfault : pathFault? (joinPath path name) = none) :
    t.step loc name = namePlace path loc name := by
  rw [step_of_isFolder hloc]
  simp only [stepFrom, namePlace, nameFault?, hfault, hname.ne_empty, hname.ne_dot, hname.ne_dots]
  by_cases hsize : maxNameBytes < name.utf8ByteSize <;> simp [hsize]

theorem FileTree.resolve_of_plainName {loc : Location} (hname : PlainName name)
    (hpath : (Text.split '/' path).foldlM t.step [] = .ok loc) (hloc : t.isFolder loc = true) :
    t.resolve (joinPath path name) = namePlace path loc name := by
  cases hfault : pathFault? (joinPath path name) with
  | none =>
    rw [resolve_joinPath hname.slash hfault, hpath, ok_bind, step_of_plainName hname hloc hfault]
  | some fault => simp [resolve, walk, namePlace, nameFault?, hfault]

theorem Folder.place_of_plainName {folder : Folder} (hname : PlainName name)
    (hloc : t.isFolder folder.location = true) :
    folder.place t name = namePlace folder.path folder.location name := by
  cases hfault : pathFault? (joinPath folder.path name) with
  | none =>
    -- the name is no longer than the path that ends in it
    have hname' : pathFault? name = none := by
      rw [FileTree.pathFault?_eq_none] at hfault ⊢
      rw [joinPath_eq_append, String.utf8ByteSize_append] at hfault
      exact ⟨hname.nul, by omega⟩
    simp only [place, hfault, FileTree.walk, hname', Text.split_of_notMem hname.slash,
      List.foldlM_cons, List.foldlM_nil]
    rw [FileTree.step_of_plainName hname hloc hfault, bind_pure]
  | some fault => simp [place, namePlace, nameFault?, hfault]

end Place

namespace Folder

/-- The place of the module of an artifact. -/
def target (folder : Folder) (a : Artifact) : Location :=
  folder.location ++ [a.fileName]

/-- The place in which an artifact is staged. -/
def slot (folder : Folder) (a : Artifact) : Location :=
  folder.location ++ [a.stagingName]

variable {folder : Folder} {a b : Artifact}

theorem slot_ne_nil : folder.slot a ≠ [] := by simp [slot]

theorem target_inj : folder.target a = folder.target b ↔ a.fileName = b.fileName := by
  simp [target]

theorem slot_inj : folder.slot a = folder.slot b ↔ a.fileName = b.fileName := by
  simp [slot, Artifact.stagingName_inj]

theorem target_ne_slot : folder.target a ≠ folder.slot b := by
  simp [target, slot, Artifact.fileName_ne_stagingName]

end Folder

end TreeSmith
