import TreeSmith.Proofs.Paths

/-!
# What changes of file trees leave alone

Putting what is there already changes nothing, and erasing what was put where nothing was
brings the tree back.  A folder that is there is not made again.  On a path that never goes
up, the folders that are made lie on the way to the last one; on others they can be left
behind anywhere.

## Main definitions

* `FileTree.KeptAt` — a place with the same as before, or a new folder.

## Main results

* `FileTree.put_eq_self`, `FileTree.erase_put_of_get?_eq_none` — trees that come back.
* `FileTree.makeFolders_eq_self` — a folder that is there is not made again.
* `FileTree.makeFolders_isPrefix` — where folders are made.
-/

namespace TreeSmith.FileTree

/-! ### Trees that come back -/

theorem eq_of_entries_eq {t u : FileTree} (h : t.entries = u.entries) : t = u := by
  cases t
  cases u
  cases h
  rfl

theorem get?_eq_none_iff {t : FileTree} {loc : Location} (hloc : loc ≠ []) :
    t.get? loc = none ↔ loc ∉ locations t.entries := by
  rw [get?, if_neg hloc, Option.map_eq_none_iff, List.find?_eq_none, locations, List.mem_map]
  constructor
  · rintro h ⟨entry, hentry, rfl⟩
    exact h entry hentry (beq_self_eq_true entry.1)
  · intro h entry hentry heq
    exact h ⟨entry, hentry, beq_iff_eq.mp heq⟩

/-- Putting what is there already changes nothing. -/
theorem put_eq_self {t : FileTree} {loc : Location} {e : Entry} (hloc : loc ≠ [])
    (h : t.get? loc = some e) : t.put loc e = t := by
  have hput : ∀ entries : List (Location × Entry),
      (entries.find? (·.1 == loc)).map (·.2) = some e → putEntry loc e entries = entries := by
    intro entries
    induction entries with
    | nil => intro hfind; cases hfind
    | cons entry more ih =>
      intro hfind
      rw [putEntry]
      rw [List.find?_cons] at hfind
      split_ifs with hentry
      · rw [beq_iff_eq.mpr hentry] at hfind
        rw [← hentry, ← Option.some.inj hfind]
      · rw [beq_eq_false_iff_ne.mpr hentry] at hfind
        rw [ih hfind]
  rw [get?, if_neg hloc] at h
  exact eq_of_entries_eq (hput t.entries h)

/-- Erasing what was put where nothing was brings the tree back. -/
theorem erase_put_of_get?_eq_none {t : FileTree} {loc : Location} {e : Entry} (hloc : loc ≠ [])
    (h : t.get? loc = none) : (t.put loc e).erase loc = t := by
  have hput : ∀ entries : List (Location × Entry), loc ∉ locations entries →
      (putEntry loc e entries).filter (·.1 ≠ loc) = entries := by
    intro entries
    induction entries with
    | nil => intro _; simp [putEntry]
    | cons entry more ih =>
      intro hnot
      rw [locations, List.map_cons, List.mem_cons, not_or] at hnot
      have hentry : entry.1 ≠ loc := Ne.symm hnot.1
      rw [putEntry, if_neg hentry, List.filter_cons_of_pos (by simpa using hentry), ih hnot.2]
  exact eq_of_entries_eq (hput t.entries ((get?_eq_none_iff hloc).mp h))

/-- Putting and erasing at different places can be done in any order. -/
theorem erase_put_comm {t : FileTree} {loc l : Location} {e : Entry} (h : loc ≠ l) :
    (t.put loc e).erase l = (t.erase l).put loc e := by
  have hput : ∀ entries : List (Location × Entry),
      (putEntry loc e entries).filter (·.1 ≠ l) = putEntry loc e (entries.filter (·.1 ≠ l)) := by
    intro entries
    induction entries with
    | nil => simp [putEntry, h]
    | cons entry more ih =>
      by_cases hentry : entry.1 = loc
      · have hl : entry.1 ≠ l := hentry ▸ h
        rw [putEntry, if_pos hentry, List.filter_cons_of_pos (by simpa using h),
          List.filter_cons_of_pos (by simpa using hl), putEntry, if_pos hentry]
      · rw [putEntry, if_neg hentry]
        by_cases hl : entry.1 = l
        · rw [List.filter_cons_of_neg (by simpa using hl),
            List.filter_cons_of_neg (by simpa using hl), ih]
        · rw [List.filter_cons_of_pos (by simpa using hl),
            List.filter_cons_of_pos (by simpa using hl), putEntry, if_neg hentry, ih]
  exact eq_of_entries_eq (hput t.entries)

/-! ### Folders that are made -/

/-- The place has the same as before, or a folder where nothing was. -/
def KeptAt (t u : FileTree) (l : Location) : Prop :=
  u.get? l = t.get? l ∨ (t.get? l = none ∧ u.get? l = some .folder)

/-- Going along names that lead to a folder makes no folders. -/
theorem makeSteps_eq_self {t : FileTree} {names : List String} :
    ∀ {loc l : Location}, names.foldlM t.step loc = .ok l → t.isFolder l = true →
      t.makeSteps loc names = (t, .ok l) := by
  induction names with
  | nil =>
    intro loc l h _
    cases h
    rfl
  | cons name names ih =>
    intro loc l h hl
    rw [List.foldlM_cons, bind_eq_ok] at h
    obtain ⟨next, hstep, hrest⟩ := h
    -- the place after the step is a folder, since the way goes on from it or ends there
    have hnext : t.isFolder next = true := by
      cases names with
      | nil =>
        cases hrest
        exact hl
      | cons name' names =>
        rw [List.foldlM_cons, bind_eq_ok] at hrest
        obtain ⟨_, hstep', -⟩ := hrest
        exact isFolder_of_step hstep'
    rw [makeSteps, hstep]
    simp only [isFolder_iff.mp hnext]
    exact ih hrest hl

theorem foldlM_append_eq_ok {t : FileTree} {names more : List String} {loc l : Location}
    (h : (names ++ more).foldlM t.step loc = .ok l) :
    ∃ mid, names.foldlM t.step loc = .ok mid ∧ more.foldlM t.step mid = .ok l := by
  rwa [List.foldlM_append, bind_eq_ok] at h

/-- A folder that is there is not made again. -/
theorem makeFolders_eq_self {t : FileTree} {path : String} {l : Location}
    (hfault : pathFault? path = none) (hpath : (Text.split '/' path).foldlM t.step [] = .ok l)
    (hl : t.isFolder l = true) : t.makeFolders path = (t, .ok l) := by
  unfold makeFolders
  rw [hfault]
  dsimp only
  split
  · obtain ⟨stays, hnames, hstays⟩ := exists_stays (Text.split '/' path)
    rw [hnames] at hpath
    obtain ⟨mid, hkept, hrest⟩ := foldlM_append_eq_ok hpath
    rcases List.eq_nil_or_concat (withoutStays (Text.split '/' path)) with
      hnil | ⟨front, last, hlast⟩
    · rw [hnil] at hkept ⊢
      cases hkept
      rw [foldlM_stays rfl hstays] at hrest
      cases hrest
      rfl
    · rw [hlast, List.concat_eq_append] at hkept ⊢
      obtain ⟨loc, hfront, hlaststep⟩ := foldlM_append_eq_ok hkept
      rw [List.foldlM_cons, bind_eq_ok] at hlaststep
      obtain ⟨_, hstep, hend⟩ := hlaststep
      cases hend
      -- the place before the stays is a folder: it is where they end
      have hmid : t.isFolder mid = true := by
        cases stays with
        | nil =>
          cases hrest
          exact hl
        | cons name stays =>
          rw [List.foldlM_cons, bind_eq_ok] at hrest
          obtain ⟨_, hstay, -⟩ := hrest
          exact isFolder_of_step hstay
      rw [foldlM_stays hmid hstays] at hrest
      cases hrest
      rw [List.dropLast_concat, List.getLast?_concat,
        makeSteps_eq_self hfront (isFolder_of_step hstep)]
      simp only [stepToFolder_eq_ok.mpr ⟨hstep, hl⟩]
  · exact makeSteps_eq_self hpath hl

theorem step_isPrefix {t : FileTree} {loc l : Location} {name : String}
    (h : t.step loc name = .ok l) (hname : name ≠ "..") : loc <+: l := by
  rw [step_of_isFolder (isFolder_of_step h), stepFrom] at h
  split_ifs at h
  · cases h
    exact List.prefix_rfl
  · cases h
    exact List.prefix_append loc [name]

/-- On a way that never goes up, folders are made only on the way to the last one. -/
theorem makeSteps_isPrefix {names : List String} (hnames : ".." ∉ names) :
    ∀ {t u : FileTree} {loc l : Location}, t.makeSteps loc names = (u, .ok l) →
      loc <+: l ∧ ∀ l', u.get? l' ≠ t.get? l' → l' <+: l := by
  induction names with
  | nil =>
    intro t u loc l h
    cases h
    exact ⟨List.prefix_rfl, fun l' h => absurd rfl h⟩
  | cons name names ih =>
    intro t u loc l h
    rw [List.mem_cons, not_or] at hnames
    simp only [makeSteps] at h
    split at h
    · cases h
    · next next hstep =>
      have hloc := step_isPrefix hstep (Ne.symm hnames.1)
      split at h
      · cases h
      · obtain ⟨hnext, hmade⟩ := ih hnames.2 h
        exact ⟨hloc.trans hnext, hmade⟩
      · next hnone =>
        have hnil : next ≠ [] := by rintro rfl; cases hnone
        obtain ⟨hnext, hmade⟩ := ih hnames.2 h
        refine ⟨hloc.trans hnext, fun l' hl' => ?_⟩
        by_cases heq : l' = next
        · exact heq ▸ hnext
        · refine hmade l' ?_
          rwa [get?_put t hnil, if_neg heq]

theorem makeFolders_isPrefix {t u : FileTree} {path : String} {l : Location}
    (hpath : ".." ∉ Text.split '/' path) (h : t.makeFolders path = (u, .ok l)) :
    ∀ l', u.get? l' ≠ t.get? l' → l' <+: l := by
  unfold makeFolders at h
  split at h
  · cases h
  · dsimp only at h
    split at h
    · obtain ⟨stays, hnames, -⟩ := exists_stays (Text.split '/' path)
      rw [hnames, List.mem_append, not_or] at hpath
      rcases List.eq_nil_or_concat (withoutStays (Text.split '/' path)) with
      hnil | ⟨front, last, hlast⟩
      · rw [hnil] at h
        cases h
        exact fun l' hl' => absurd rfl hl'
      · rw [hlast, List.concat_eq_append] at h hpath
        rw [List.dropLast_concat, List.getLast?_concat] at h
        have hfront : ".." ∉ front := fun hmem => hpath.1 (List.mem_append_left _ hmem)
        have hlast' : last ≠ ".." := fun heq => hpath.1 (by simp [heq])
        cases hmake : t.makeSteps [] front with
        | mk v made =>
          rw [hmake] at h
          cases made with
          | error fault => cases h
          | ok loc =>
            obtain ⟨rfl, hstep⟩ := Prod.mk.inj h
            obtain ⟨-, hmade⟩ := makeSteps_isPrefix hfront hmake
            have hnext := step_isPrefix (stepToFolder_eq_ok.mp hstep).1 hlast'
            exact fun l' hl' => (hmade l' hl').trans hnext
    · exact (makeSteps_isPrefix hpath h).2

end TreeSmith.FileTree
