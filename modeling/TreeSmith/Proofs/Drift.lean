import TreeSmith.Generator
import TreeSmith.Proofs.Encoding
import TreeSmith.Proofs.Registration
import TreeSmith.Proofs.Targets

/-!
# Writing and then comparing

A folder is compared with artifacts by their checksums.  Where every target can be read
or is missing, the comparison reports exactly the artifacts whose target is missing or
holds bytes of another hash, in their order.  After the artifacts of a generator were
written there is nothing to report, and no two of them have the same file.

## Main definitions

* `FileTree.Readable`, `FileTree.textAt?` — paths that can be compared, and their texts.
* `Artifact.isStale` — a target that is missing or holds bytes of another hash.
* `Drift.Reports` — a drift says what an artifact and its target are.

## Main results

* `Checksum.of_inj` — texts have the same checksum when their bytes have the same hash.
* `check_of_readable` — what the comparison reports.
* `Generator.check_of_write` — what it reports after writing.
-/

namespace TreeSmith

/-! ### Checksums -/

/-- Two texts have the same checksum exactly when their bytes have the same hash. -/
theorem Checksum.of_inj {s t : String} : Checksum.of s = Checksum.of t ↔
    Sha256.digest s.toUTF8.toList = Sha256.digest t.toUTF8.toList := by
  constructor
  · intro h
    have hhex := congrArg (fun c => Text.hexBytes? c.text.toList) h
    simpa [of, ofBytes, Text.hexBytes?_flatMap_hexOfByte] using hhex
  · intro h
    rw [of, of, ofBytes, ofBytes, h]

/-! ### Comparing -/

namespace FileTree

/-- The path leads to a text, or it or something on the way to it is missing. -/
def Readable (s : FileTree) (path : String) : Prop :=
  s.findAt path = .error .missing ∨ ∃ text, s.findAt path = .ok (.file (.text text))

/-- The text at a path, if there is one. -/
def textAt? (s : FileTree) (path : String) : Option String :=
  match s.findAt path with
  | .ok (.file (.text text)) => some text
  | _ => none

theorem findAt_eq_ok {s : FileTree} {path : String} {e : Entry} :
    s.findAt path = .ok e ↔ s.holds? path = some e := by
  rw [holds?]
  cases s.findAt path <;> simp [Except.toOption]

/-- Reading a path fails as finding it does. -/
theorem readAt_eq (s : FileTree) (path : String) : s.readAt path =
    match s.findAt path with
    | .error fault => .error fault
    | .ok .folder => .error .isFolder
    | .ok (.file (.binary _)) => .error .notText
    | .ok (.file (.text text)) => .ok text := by
  unfold readAt findAt
  cases s.resolve path with
  | error fault => rfl
  | ok l =>
    simp only [ok_bind, read, readContent]
    cases s.find l with
    | error fault => rfl
    | ok e =>
      cases e with
      | folder => rfl
      | file content => cases content <;> rfl

end FileTree

variable {s : FileTree} {path : String} {a : Artifact} {artifacts : List Artifact}

theorem onDisk_of_readable (h : s.Readable (a.pathIn path)) :
    onDisk s path a = .ok (s.textAt? (a.pathIn path)) := by
  unfold onDisk FileTree.textAt?
  rw [FileTree.readAt_eq]
  rcases h with h | ⟨text, h⟩ <;> simp [h]

/-- The target is missing, or the bytes of its text have another hash. -/
def Artifact.isStale (a : Artifact) (s : FileTree) (path : String) : Bool :=
  match s.textAt? (a.pathIn path) with
  | none => true
  | some text => Sha256.digest text.toUTF8.toList ≠ Sha256.digest a.contents.toUTF8.toList

/-- The drift says what an artifact is and what its target holds. -/
structure Drift.Reports (s : FileTree) (path : String) (a : Artifact) (d : Drift) : Prop where
  fileName : d.fileName = a.fileName
  expected : d.expected = .of a.contents
  actual : d.actual = (s.textAt? (a.pathIn path)).map Checksum.of
  diff : d.diff = Diff.lineDiff ((s.textAt? (a.pathIn path)).getD "") a.contents

/-- An artifact drifts exactly when it is stale. -/
theorem drift?_cases (s : FileTree) (path : String) (a : Artifact) :
    (a.isStale s path = false ∧ drift? a (s.textAt? (a.pathIn path)) = none) ∨
    (a.isStale s path = true ∧
      ∃ d, drift? a (s.textAt? (a.pathIn path)) = some d ∧ d.Reports s path a) := by
  -- the code compares checksums as texts, staleness compares hashes
  have hverify : (s.textAt? (a.pathIn path)).any a.checksum.verify = !a.isStale s path := by
    unfold Artifact.isStale
    cases s.textAt? (a.pathIn path) with
    | none => rfl
    | some text => simp [Artifact.checksum, Checksum.verify, Checksum.of_inj, Bool.beq_eq_decide_eq]
  unfold drift?
  rw [hverify]
  cases a.isStale s path with
  | false => exact .inl ⟨rfl, rfl⟩
  | true => exact .inr ⟨rfl, _, rfl, rfl, rfl, rfl, rfl⟩

/-- Where every target is missing or holds a text, the stale artifacts are reported in
their order. -/
theorem check_of_readable (h : ∀ a ∈ artifacts, s.Readable (a.pathIn path)) :
    ∃ drifts, check s path artifacts = .ok drifts ∧
      List.Forall₂ (fun a d => Drift.Reports s path a d)
        (artifacts.filter (·.isStale s path)) drifts := by
  induction artifacts with
  | nil => exact ⟨[], rfl, .nil⟩
  | cons a more ih =>
    obtain ⟨ha, hmore⟩ := List.forall_mem_cons.mp h
    obtain ⟨drifts, hcheck, hdrifts⟩ := ih hmore
    simp only [check, onDisk_of_readable ha, hcheck]
    rcases drift?_cases s path a with ⟨hfresh, hnone⟩ | ⟨hstale, d, hsome, hd⟩
    · refine ⟨_, rfl, ?_⟩
      rw [hnone, List.filter_cons, hfresh]
      exact hdrifts
    · refine ⟨_, rfl, ?_⟩
      rw [hsome, List.filter_cons, if_pos hstale]
      exact .cons hd hdrifts

/-- Nothing is reported of targets that hold the texts of their artifacts. -/
theorem check_of_holds? (h : ∀ a ∈ artifacts,
    s.holds? (a.pathIn path) = some (.file (.text a.contents))) :
    check s path artifacts = .ok [] := by
  have hfind : ∀ a ∈ artifacts, s.findAt (a.pathIn path) = .ok (.file (.text a.contents)) :=
    fun a ha => FileTree.findAt_eq_ok.mpr (h a ha)
  obtain ⟨drifts, hcheck, hdrifts⟩ := check_of_readable fun a ha => .inr ⟨_, hfind a ha⟩
  have hfresh : artifacts.filter (·.isStale s path) = [] := by
    rw [List.filter_eq_nil_iff]
    intro a ha
    simp [Artifact.isStale, FileTree.textAt?, hfind a ha]
  rw [hfresh, List.forall₂_nil_left_iff] at hdrifts
  rw [hcheck, hdrifts]

/-! ### Generators -/

namespace Generator

variable {g : Generator} {t t' : FileTree}

theorem map_family_of_artifacts {families : List Family} (h : g.artifacts families = .ok artifacts) :
    artifacts.map (·.family) = families.map (·.name) := by
  induction families generalizing artifacts with
  | nil =>
    obtain rfl := Except.ok.inj h
    rfl
  | cons family more ih =>
    simp only [Generator.artifacts, Generator.artifact, bind_eq_ok] at h
    obtain ⟨first, ⟨definition, -, contents, -, hfirst⟩, rest, hrest, hall⟩ := h
    obtain rfl := Except.ok.inj hfirst
    obtain rfl := Except.ok.inj hall
    rw [List.map_cons, List.map_cons, ih hrest]

/-- Writing succeeds when the artifacts can be generated and put into the folder. -/
theorem write_eq_ok : g.write t path = (t', .ok artifacts) ↔
    g.generate = .ok artifacts ∧ ∃ targets, persist t path artifacts = (t', .ok targets) := by
  unfold write
  cases g.generate with
  | error fault => simp
  | ok generated =>
    constructor
    · intro h
      cases hpersist : persist t path generated with
      | mk u result =>
        simp only [hpersist, Prod.mk.injEq] at h
        obtain ⟨rfl, hresult⟩ := h
        cases result with
        | error fault => cases hresult
        | ok targets =>
          obtain rfl := Except.ok.inj hresult
          exact ⟨rfl, targets, hpersist⟩
    · rintro ⟨hgenerate, targets, hpersist⟩
      obtain rfl := Except.ok.inj hgenerate
      simp only [hpersist]
      rfl

/-- The artifacts of reachable registries are named after identifiers. -/
theorem isIdentifier_of_generate (hr : g.registry.Reachable) (h : g.generate = .ok artifacts) :
    ∀ a ∈ artifacts, Name.isIdentifier a.family = true := by
  intro a ha
  have hmem : a.family ∈ g.registry.families.map (·.name) :=
    map_family_of_artifacts h ▸ List.mem_map_of_mem ha
  obtain ⟨family, hfamily, hname⟩ := List.mem_map.mp hmem
  rw [← hname]
  exact (hr.valid.families family hfamily).name.identifier

/-- After writing, whatever the renderer and its template, the artifacts are those of the
families in order of registration, no two in the same file.  Comparing them with any folder in which each target is missing or
holds a text reports the stale ones in this order, and reports nothing of the folder
that was written. -/
theorem check_of_write (hr : g.registry.Reachable) (h : g.write t path = (t', .ok artifacts)) :
    artifacts.map (·.family) = g.registry.families.map (·.name) ∧
    (artifacts.map (·.fileName)).Nodup ∧
    (∀ s : FileTree, (∀ a ∈ artifacts, s.Readable (a.pathIn path)) →
      ∃ drifts, g.check s path = .ok drifts ∧
        List.Forall₂ (fun a d => Drift.Reports s path a d)
          (artifacts.filter (·.isStale s path)) drifts) ∧
    g.check t' path = .ok [] := by
  obtain ⟨hgenerate, targets, hpersist⟩ := write_eq_ok.mp h
  have hnames := isIdentifier_of_generate hr hgenerate
  refine ⟨map_family_of_artifacts hgenerate, nodup_of_persist_eq_ok hnames hpersist, ?_, ?_⟩
  · intro s hs
    obtain ⟨drifts, hcheck, hdrifts⟩ := check_of_readable hs
    refine ⟨drifts, ?_, hdrifts⟩
    rw [check, hgenerate]
    simp only [hcheck]
    rfl
  · have hholds := fun a ha => holds?_of_persist_eq_ok (a := a) hnames hpersist ha
    rw [check, hgenerate]
    simp only [check_of_holds? hholds]
    rfl

/-- A generator of two families with a short template. -/
def twoFamilies : Generator :=
  ⟨Registry.empty.run
    [.family "Expr" [] [], .family "Stmt" [⟨"Print", [.subtree "Expr" "value"]⟩] ["Expr"]],
    .default, .ofTemplate "mod \x7b\x7b base_name \x7d\x7d;"⟩

/-- A folder in which the first module was edited. -/
def editedTree : FileTree :=
  ((FileTree.empty.put ["out"] .folder).put ["out", "expr.rs"] (.file (.text "mod Edited;"))).put
    ["out", "stmt.rs"] (.file (.text "mod Stmt;"))

/-- The edited module is reported, and nothing is reported of the folder as written. -/
theorem check_of_write_twoFamilies :
    twoFamilies.registry.Reachable ∧
    ∃ t' artifacts, twoFamilies.write .empty "out" = (t', .ok artifacts) ∧
      twoFamilies.check t' "out" = .ok [] ∧
      ∃ drifts, twoFamilies.check editedTree "out" = .ok drifts ∧
        drifts.map (·.fileName) = ["expr.rs"] := by
  have hr : twoFamilies.registry.Reachable := ⟨_, rfl⟩
  have hgenerate : twoFamilies.generate =
      .ok [⟨"Expr", "mod Expr;"⟩, ⟨"Stmt", "mod Stmt;"⟩] := by decide +kernel
  have hwrite := write_eq_ok.mpr ⟨hgenerate, _, (rfl : persist .empty "out" _ = (_, .ok _))⟩
  obtain ⟨-, -, hcheck, hclean⟩ := check_of_write hr hwrite
  refine ⟨hr, _, _, hwrite, hclean, ?_⟩
  obtain ⟨drifts, hdrifts, hreports⟩ := hcheck editedTree (by
    simp only [List.forall_mem_cons]
    exact ⟨.inr ⟨_, rfl⟩, .inr ⟨_, rfl⟩, nofun⟩)
  refine ⟨drifts, hdrifts, ?_⟩
  rw [map_eq_map_of_forall₂ (hreports.imp fun _ _ h => h.fileName)]
  decide +kernel

end Generator

end TreeSmith
