import Mathlib.Data.List.Nodup
import TreeSmith.Proofs.Encoding
import TreeSmith.Proofs.Paths
import TreeSmith.Suite.Sample

/-!
# Finding the samples

A walk through a folder lists what is below it, each thing once, by the names on the way.
The samples are the files whose last names end in the right extension.  A condition on
names splits them in two.  Names are bytes, and a sample is named by the text of its path
from the folder.  Where no two samples get the same text, the order of the texts leaves no
choice, and what a pattern selects does not depend on the order of the walk; where two get
the same text, it does.  Names that are texts are of the first kind.

## Main definitions

* `FileTree.SlashFree` — no name in the tree holds a slash.
* `IsListing` — entries as a walk through a folder lists them.
* `NamesDiffer` — no two samples among the entries get the same name.
* `Splits` — two lists that divide the samples by a condition on names.

## Main results

* `FileTree.mem_below` — what stands below a folder.
* `extension?_eq_some_iff` — which file names have the extension of samples.
* `rawPath_injOn` — a path without slashes in its names determines them.
* `IsListing.splits_samples` — any condition on names splits the samples of a walk.
* `IsListing.increasing_iff`, `IsListing.gathered_eq_iff` — when the order leaves no choice.
* `gather_splits` — gathering with and without a pattern.
-/

namespace TreeSmith

open Text (bytesOf lossy bytesOf_append bytesOf_lt_iff lossy_bytesOf notMem_bytesOf)

/-! ### Listing the entries in another order -/

namespace FileTree

variable {t u : FileTree}

/-- What stands at a place is what the entries list for it. -/
theorem get?_eq_some_iff {loc : Location} (hloc : loc ≠ []) {e : Entry} :
    t.get? loc = some e ↔ (loc, e) ∈ t.entries := by
  simp only [get?, if_neg hloc, Option.map_eq_some_iff]
  constructor
  · rintro ⟨entry, hfind, rfl⟩
    have hkey := List.find?_some hfind
    rw [beq_iff_eq] at hkey
    subst hkey
    exact List.mem_of_find?_eq_some hfind
  · intro hmem
    -- some entry of this place is found, and there is only one
    have hfound : (t.entries.find? (·.1 == loc)).isSome :=
      List.find?_isSome.mpr ⟨(loc, e), hmem, beq_self_eq_true loc⟩
    obtain ⟨entry, hfind⟩ := Option.isSome_iff_exists.mp hfound
    have hkey := List.find?_some hfind
    rw [beq_iff_eq] at hkey
    have heq := List.inj_on_of_nodup_map t.distinct (List.mem_of_find?_eq_some hfind) hmem hkey
    exact ⟨entry, hfind, by rw [heq]⟩

theorem get?_eq_of_perm (h : t.entries.Perm u.entries) (loc : Location) :
    t.get? loc = u.get? loc := by
  by_cases hloc : loc = []
  · subst hloc; rfl
  · apply Option.ext
    intro e
    rw [get?_eq_some_iff hloc, get?_eq_some_iff hloc]
    exact h.mem_iff

theorem resolve_eq_of_perm (h : t.entries.Perm u.entries) (path : String) :
    t.resolve path = u.resolve path := by
  have hstep : t.step = u.step := by
    funext loc name
    simp only [step, get?_eq_of_perm h]
  simp only [resolve, walk, hstep]

/-! ### What stands below a folder -/

/-- What stands below a folder is what stands at the places that go on from it. -/
theorem mem_below {loc rel : Location} {e : Entry} :
    (rel, e) ∈ t.below loc ↔ rel ≠ [] ∧ t.get? (loc ++ rel) = some e := by
  have hentry : (rel, e) ∈ t.below loc ↔ rel ≠ [] ∧ (loc ++ rel, e) ∈ t.entries := by
    unfold below
    rw [List.mem_filterMap]
    constructor
    · rintro ⟨⟨place, e'⟩, hmem, h⟩
      obtain ⟨hcond, h⟩ := Option.ite_none_right_eq_some.mp h
      rw [Bool.and_eq_true, List.isPrefixOf_iff_prefix, decide_eq_true_eq] at hcond
      obtain ⟨⟨tail, rfl⟩, hlength⟩ := hcond
      simp only [List.drop_left, Option.some.injEq, Prod.mk.injEq] at h
      obtain ⟨rfl, rfl⟩ := h
      refine ⟨?_, hmem⟩
      rintro rfl
      simp at hlength
    · rintro ⟨hne, hmem⟩
      refine ⟨(loc ++ rel, e), hmem, ?_⟩
      have hlength : 0 < rel.length := List.length_pos_iff.mpr hne
      simp [hlength]
  rw [hentry]
  refine and_congr_right fun hne => ?_
  rw [get?_eq_some_iff (by simp [hne])]

/-- Each place below a folder is listed once. -/
theorem nodup_locations_below (t : FileTree) (loc : Location) :
    (locations (t.below loc)).Nodup := by
  have heq : locations (t.below loc) = (locations t.entries).filterMap fun place =>
      if loc.isPrefixOf place && loc.length < place.length then some (place.drop loc.length)
      else none := by
    unfold locations below
    rw [List.map_filterMap, List.filterMap_map]
    congr 1
    funext entry
    simp only [Function.comp_apply]
    split <;> rfl
  rw [heq]
  refine t.distinct.filterMap ?_
  -- a place below the folder is the folder's followed by what is listed for it
  intro place place' rel h h'
  obtain ⟨hcond, h⟩ := Option.ite_none_right_eq_some.mp h
  obtain ⟨hcond', h'⟩ := Option.ite_none_right_eq_some.mp h'
  rw [Bool.and_eq_true, List.isPrefixOf_iff_prefix] at hcond hcond'
  obtain ⟨⟨tail, rfl⟩, -⟩ := hcond
  obtain ⟨⟨tail', rfl⟩, -⟩ := hcond'
  simp only [List.drop_left, Option.some.injEq] at h h'
  rw [h, h']

/-- No name in the tree holds a slash.  A name is what stands between two slashes of a
path, so every tree of files is of this kind. -/
def SlashFree (t : FileTree) : Prop :=
  ∀ entry ∈ t.entries, ∀ name ∈ entry.1, '/' ∉ name.toList

instance (t : FileTree) : Decidable t.SlashFree :=
  inferInstanceAs (Decidable (∀ entry ∈ t.entries, ∀ name ∈ entry.1, '/' ∉ name.toList))

theorem SlashFree.notMem_of_get? (h : t.SlashFree) {loc rel : Location} (hrel : rel ≠ [])
    {e : Entry} (hget : t.get? (loc ++ rel) = some e) : ∀ name ∈ rel, '/' ∉ name.toList := by
  intro name hname
  have hmem := (get?_eq_some_iff (by simp [hrel])).mp hget
  exact h _ hmem name (List.mem_append_right loc hname)

end FileTree

namespace Suite

/-! ### Names and paths as bytes -/

theorem bytesOf_injective : Function.Injective bytesOf := fun s t h => by
  rw [← lossy_bytesOf s, h, lossy_bytesOf]

theorem bytesOf_ne_nil {s : String} (hs : s ≠ "") : bytesOf s ≠ [] := fun h =>
  hs (bytesOf_injective h)

theorem rawPath_cons_cons (name next : RawName) (more : List RawName) :
    rawPath (name :: next :: more) = name ++ slash :: rawPath (next :: more) := by
  simp [rawPath, List.intercalate_cons_cons]

/-- What stands before the first slash of a path, and what stands behind it. -/
theorem append_slash_inj {a a' r r' : List UInt8} (ha : slash ∉ a) (ha' : slash ∉ a')
    (h : a ++ slash :: r = a' ++ slash :: r') : a = a' ∧ r = r' := by
  rcases List.append_eq_append_iff.mp h with ⟨c, rfl, hc⟩ | ⟨c, rfl, hc⟩
  all_goals
    cases c with
    | nil => simpa [eq_comm] using hc
    | cons b c =>
      obtain ⟨rfl, -⟩ := List.cons.inj hc
      simp at ha ha'

/-- Different places have different paths, where no name holds a slash. -/
theorem rawPath_injOn {names names' : List RawName} (hne : names ≠ []) (hne' : names' ≠ [])
    (hslash : ∀ name ∈ names, slash ∉ name) (hslash' : ∀ name ∈ names', slash ∉ name)
    (h : rawPath names = rawPath names') : names = names' := by
  induction names generalizing names' with
  | nil => exact absurd rfl hne
  | cons a more ih =>
    have ha : slash ∉ a := hslash a List.mem_cons_self
    obtain ⟨a', more', rfl⟩ := List.exists_cons_of_ne_nil hne'
    have ha' : slash ∉ a' := hslash' a' List.mem_cons_self
    have hsingle (name : RawName) : rawPath [name] = name := by simp [rawPath]
    cases more with
    | nil =>
      cases more' with
      | nil => rw [hsingle, hsingle] at h; rw [h]
      | cons b' more' =>
        rw [hsingle, rawPath_cons_cons] at h
        exact absurd (h ▸ by simp) ha
    | cons b more =>
      cases more' with
      | nil =>
        rw [hsingle, rawPath_cons_cons] at h
        exact absurd (h ▸ by simp) ha'
      | cons b' more' =>
        rw [rawPath_cons_cons, rawPath_cons_cons] at h
        obtain ⟨rfl, hrest⟩ := append_slash_inj ha ha' h
        rw [ih (List.cons_ne_nil _ _) (List.cons_ne_nil _ _)
          (fun n hn => hslash n (List.mem_cons_of_mem _ hn))
          (fun n hn => hslash' n (List.mem_cons_of_mem _ hn)) hrest]

/-- A path inside a folder determines the path. -/
theorem joinRaw_injective (folder : List UInt8) : Function.Injective (joinRaw folder) := by
  intro path path' h
  -- without the folder in front, a path that is not empty is left, and perhaps a slash
  obtain ⟨sep, hsep⟩ : ∃ sep, ∀ p, p ≠ [] → joinRaw folder p = folder ++ (sep ++ p) := by
    by_cases hend : (folder = [] || folder.getLast? = some slash) = true
    · exact ⟨[], fun p hp => by rw [joinRaw, if_neg hp, if_pos hend, List.nil_append]⟩
    · exact ⟨[slash], fun p hp => by rw [joinRaw, if_neg hp, if_neg hend, List.singleton_append]⟩
  have hnil : joinRaw folder [] = folder := if_pos rfl
  by_cases hp : path = [] <;> by_cases hp' : path' = []
  · rw [hp, hp']
  · rw [hp, hnil, hsep _ hp', List.self_eq_append_right, List.append_eq_nil_iff] at h
    exact absurd h.2 hp'
  · rw [hp', hnil, hsep _ hp, List.append_right_eq_self, List.append_eq_nil_iff] at h
    exact absurd h.2 hp
  · rw [hsep _ hp, hsep _ hp'] at h
    exact List.append_cancel_left (List.append_cancel_left h)

theorem rawPath_map_bytesOf (loc : Location) : rawPath (loc.map bytesOf) = bytesOf loc.path := by
  induction loc with
  | nil => rfl
  | cons name more ih =>
    cases more with
    | nil => simp [rawPath, Location.path]
    | cons next more =>
      have hpath : Location.path (name :: next :: more) =
          name ++ ("/" ++ Location.path (next :: more)) := by
        simp [Location.path, String.intercalate_cons_cons, String.append_assoc]
      rw [List.map_cons, List.map_cons, rawPath_cons_cons, ← List.map_cons, ih, hpath,
        bytesOf_append, bytesOf_append]
      rfl

/-- The file names with the extension of samples: it stands behind a dot that is not the
first byte. -/
theorem extension?_eq_some_iff {name : RawName} :
    extension? name = some sampleExtension ↔ ∃ stem, stem ≠ [] ∧ name = stem ++ bytesOf ".lox" := by
  have hlox : bytesOf ".lox" = dot :: sampleExtension := rfl
  have hnodot : ∀ b ∈ sampleExtension.reverse, (b != dot) = true :=
    List.all_eq_true.mp (by decide)
  constructor
  · intro h
    simp only [extension?] at h
    split at h
    · next d c rest hdrop =>
      have hdot : d = dot := by
        have hhead := List.head?_dropWhile_not (· != dot) name.reverse
        rw [hdrop] at hhead
        simpa using hhead
      have htake : (name.reverse.takeWhile (· != dot)).reverse = sampleExtension :=
        Option.some.inj h
      refine ⟨rest.reverse ++ [c], by simp, ?_⟩
      have hreverse : name.reverse = sampleExtension.reverse ++ d :: c :: rest := by
        calc name.reverse
            = name.reverse.takeWhile (· != dot) ++ name.reverse.dropWhile (· != dot) :=
              List.takeWhile_append_dropWhile.symm
          _ = sampleExtension.reverse ++ d :: c :: rest := by
              rw [hdrop, List.reverse_eq_iff.mp htake]
      rw [← List.reverse_inj, hreverse, hlox, hdot]
      simp
    · cases h
  · rintro ⟨stem, hstem, rfl⟩
    obtain ⟨c, rest, hrest⟩ : ∃ c rest, stem.reverse = c :: rest :=
      List.exists_cons_of_ne_nil (by simpa using hstem)
    have hreverse : (stem ++ bytesOf ".lox").reverse =
        sampleExtension.reverse ++ dot :: c :: rest := by
      simp [hlox, hrest]
    simp only [extension?, hreverse]
    rw [List.dropWhile_append_of_pos hnodot, List.takeWhile_append_of_pos hnodot]
    simp

/-! ### The samples of a walk -/

/-- An entry is a file with the extension of samples. -/
def WalkEntry.IsSample (e : WalkEntry) : Prop :=
  e.isFile = true ∧ ∃ front stem, stem ≠ [] ∧ e.names = front ++ [stem ++ bytesOf ".lox"]

/-- Entries as a walk through a folder lists them: each thing below the folder once, by
names that hold no slash. -/
structure IsListing (entries : List WalkEntry) : Prop where
  nodup : (entries.map (·.names)).Nodup
  named : ∀ e ∈ entries, e.names ≠ []
  slashFree : ∀ e ∈ entries, ∀ name ∈ e.names, slash ∉ name

/-- A sample stands at the end of the names. -/
def IsSamplePlace (entries : List WalkEntry) (names : List RawName) : Prop :=
  ∃ e ∈ entries, e.IsSample ∧ e.names = names

/-- No two samples get the same text for their name. -/
def NamesDiffer (entries : List WalkEntry) : Prop :=
  ∀ names names', IsSamplePlace entries names → IsSamplePlace entries names' →
    lossy (rawPath names) = lossy (rawPath names') → names = names'

theorem sampleAt?_eq_some_iff {root : List UInt8} {e : WalkEntry} {s : Sample} :
    sampleAt? root e = some s ↔ e.IsSample ∧ s = sampleOf root e.names := by
  have hlast : e.names.getLast?.any isSampleName = true ↔
      ∃ front stem, stem ≠ [] ∧ e.names = front ++ [stem ++ bytesOf ".lox"] := by
    rw [Option.any_eq_true]
    constructor
    · rintro ⟨last, hlast, hname⟩
      obtain ⟨front, hfront⟩ := List.getLast?_eq_some_iff.mp hlast
      obtain ⟨stem, hstem, rfl⟩ := extension?_eq_some_iff.mp (beq_iff_eq.mp hname)
      exact ⟨front, stem, hstem, hfront⟩
    · rintro ⟨front, stem, hstem, hnames⟩
      refine ⟨stem ++ bytesOf ".lox", by simp [hnames], ?_⟩
      exact beq_iff_eq.mpr (extension?_eq_some_iff.mpr ⟨stem, hstem, rfl⟩)
  unfold sampleAt?
  rw [Option.ite_none_right_eq_some, Bool.and_eq_true, hlast, Option.some.injEq,
    @eq_comm _ (sampleOf root e.names)]
  rfl

/-- The places of the samples among the entries. -/
def samplePlaces (entries : List WalkEntry) : List (List RawName) :=
  (entries.filter fun e => (sampleAt? [] e).isSome).map (·.names)

theorem mem_samplePlaces {entries : List WalkEntry} {names : List RawName} :
    names ∈ samplePlaces entries ↔ IsSamplePlace entries names := by
  simp only [samplePlaces, IsSamplePlace, List.mem_map, List.mem_filter,
    Option.isSome_iff_exists, sampleAt?_eq_some_iff]
  constructor
  · rintro ⟨e, ⟨he, s, hsample, -⟩, rfl⟩
    exact ⟨e, he, hsample, rfl⟩
  · rintro ⟨e, he, hsample, rfl⟩
    exact ⟨e, ⟨he, _, hsample, rfl⟩, rfl⟩

theorem samples_folder (root : List UInt8) (entries : List WalkEntry) :
    (Walk.folder entries).samples root = (samplePlaces entries).map (sampleOf root) := by
  show entries.filterMap (sampleAt? root) = _
  rw [samplePlaces, List.map_map, ← List.filterMap_eq_map, List.filterMap_filter]
  congr 1
  funext e
  unfold sampleAt?
  split <;> rfl

namespace IsListing

variable {entries : List WalkEntry}

theorem nodup_samplePlaces (h : IsListing entries) : (samplePlaces entries).Nodup :=
  h.nodup.sublist (List.filter_sublist.map _)

/-- A place of a sample has names, and none of them holds a slash. -/
theorem samplePlace (h : IsListing entries) {names : List RawName}
    (hnames : IsSamplePlace entries names) : names ≠ [] ∧ ∀ name ∈ names, slash ∉ name := by
  obtain ⟨e, he, -, rfl⟩ := hnames
  exact ⟨h.named e he, h.slashFree e he⟩

theorem eq_of_rawPath_eq (h : IsListing entries) {names names' : List RawName}
    (hnames : IsSamplePlace entries names) (hnames' : IsSamplePlace entries names')
    (hpath : rawPath names = rawPath names') : names = names' :=
  rawPath_injOn (h.samplePlace hnames).1 (h.samplePlace hnames').1 (h.samplePlace hnames).2
    (h.samplePlace hnames').2 hpath

/-- Different samples have different paths. -/
theorem nodup_paths (h : IsListing entries) (root : List UInt8) :
    (((Walk.folder entries).samples root).map (·.path)).Nodup := by
  rw [samples_folder, List.map_map]
  refine h.nodup_samplePlaces.map_on ?_
  intro names hnames names' hnames' hpath
  exact h.eq_of_rawPath_eq (mem_samplePlaces.mp hnames) (mem_samplePlaces.mp hnames')
    (joinRaw_injective root hpath)

/-- Samples get different names just if no two places get the same text. -/
theorem nodup_names_iff (h : IsListing entries) (root : List UInt8) :
    (((Walk.folder entries).samples root).map (·.name)).Nodup ↔ NamesDiffer entries := by
  rw [samples_folder, List.map_map]
  constructor
  · intro hnodup names names' hnames hnames' htext
    exact List.inj_on_of_nodup_map hnodup (mem_samplePlaces.mpr hnames)
      (mem_samplePlaces.mpr hnames') htext
  · intro hdiffer
    refine h.nodup_samplePlaces.map_on ?_
    intro names hnames names' hnames' htext
    exact hdiffer names names' (mem_samplePlaces.mp hnames) (mem_samplePlaces.mp hnames') htext

/-- Names that are texts differ as texts. -/
theorem namesDiffer_of_texts (h : IsListing entries)
    (htexts : ∀ e ∈ entries, ∃ loc : Location, e.names = loc.map bytesOf) :
    NamesDiffer entries := by
  intro names names' hnames hnames' htext
  refine h.eq_of_rawPath_eq hnames hnames' ?_
  obtain ⟨e, he, -, rfl⟩ := hnames
  obtain ⟨e', he', -, rfl⟩ := hnames'
  obtain ⟨loc, hloc⟩ := htexts e he
  obtain ⟨loc', hloc'⟩ := htexts e' he'
  rw [hloc, hloc', rawPath_map_bytesOf, rawPath_map_bytesOf, lossy_bytesOf, lossy_bytesOf] at htext
  rw [hloc, hloc', rawPath_map_bytesOf, rawPath_map_bytesOf, htext]

end IsListing

/-! ### The order of names -/

theorem perm_inOrder (samples : List Sample) : (inOrder samples).Perm samples :=
  List.mergeSort_perm _ _

theorem name_le_trans (a b c : Sample) (hab : decide (a.name ≤ b.name) = true)
    (hbc : decide (b.name ≤ c.name) = true) : decide (a.name ≤ c.name) = true :=
  decide_eq_true (String.le_trans (of_decide_eq_true hab) (of_decide_eq_true hbc))

theorem name_le_total (a b : Sample) :
    (decide (a.name ≤ b.name) || decide (b.name ≤ a.name)) = true := by
  simpa using String.le_total a.name b.name

theorem pairwise_inOrder (samples : List Sample) :
    (inOrder samples).Pairwise fun a b => a.name ≤ b.name :=
  (List.pairwise_mergeSort name_le_trans name_le_total samples).imp of_decide_eq_true

theorem inOrder_eq_self {samples : List Sample} (h : samples.Pairwise fun a b => a.name ≤ b.name) :
    inOrder samples = samples :=
  List.mergeSort_of_pairwise (h.imp decide_eq_true)

/-- Samples of one name stay in the order in which they are listed. -/
theorem sublist_inOrder {a b : Sample} {samples : List Sample} (hname : a.name = b.name)
    (h : [a, b].Sublist samples) : [a, b].Sublist (inOrder samples) :=
  List.pair_sublist_mergeSort name_le_trans name_le_total
    (decide_eq_true (hname ▸ String.le_refl _)) h

/-- Samples of different names have one order, however they are listed. -/
theorem inOrder_eq_of_perm {as bs : List Sample} (h : as.Perm bs)
    (hnodup : (as.map (·.name)).Nodup) : inOrder as = inOrder bs := by
  refine List.Perm.eq_of_pairwise ?_ (pairwise_inOrder as) (pairwise_inOrder bs)
    ((perm_inOrder as).trans (h.trans (perm_inOrder bs).symm))
  intro a b ha hb hab hba
  have ha' : a ∈ as := (perm_inOrder as).mem_iff.mp ha
  have hb' : b ∈ as := h.mem_iff.mpr ((perm_inOrder bs).mem_iff.mp hb)
  exact List.inj_on_of_nodup_map hnodup ha' hb' (String.le_antisymm hab hba)

/-- No two things stand in both orders in a list without repetition. -/
theorem not_sublist_swap {α : Type} {a b : α} {l : List α} (hnodup : l.Nodup)
    (hab : [a, b].Sublist l) : ¬ [b, a].Sublist l := by
  intro hba
  induction l with
  | nil => cases hab
  | cons c l ih =>
    obtain ⟨hc, hl⟩ := List.nodup_cons.mp hnodup
    cases hab with
    | cons _ hab =>
      cases hba with
      | cons _ hba => exact ih hl hab hba
      | cons_cons _ ha => exact hc (hab.subset (by simp))
    | cons_cons _ hb =>
      cases hba with
      | cons _ hba => exact hc (hba.subset (by simp))
      | cons_cons _ ha => exact hc (hb.subset (by simp))

/-- Where the samples listed the other way round come out in the same order, all their names
are different. -/
theorem nodup_names_of_inOrder_reverse {samples : List Sample} (hnodup : samples.Nodup)
    (h : inOrder samples.reverse = inOrder samples) : (samples.map (·.name)).Nodup := by
  refine List.pairwise_map.mpr (List.pairwise_iff_forall_sublist.mpr ?_)
  intro a b hab hname
  -- both orders of the two come out
  have hba : [b, a].Sublist samples.reverse := List.reverse_sublist.mpr hab
  have hordered := sublist_inOrder hname.symm hba
  rw [h] at hordered
  exact not_sublist_swap ((perm_inOrder samples).nodup_iff.mpr hnodup) (sublist_inOrder hname hab)
    hordered

/-- The names of samples increase, byte by byte. -/
def Increasing (samples : List Sample) : Prop :=
  samples.Pairwise fun a b => bytesOf a.name < bytesOf b.name

instance (samples : List Sample) : Decidable (Increasing samples) :=
  inferInstanceAs (Decidable (samples.Pairwise fun a b => bytesOf a.name < bytesOf b.name))

/-- Names increase just if all of them are different. -/
theorem increasing_inOrder_iff (samples : List Sample) :
    Increasing (inOrder samples) ↔ (samples.map (·.name)).Nodup := by
  rw [← ((perm_inOrder samples).map _).nodup_iff, List.Nodup, List.pairwise_map]
  constructor
  · intro h
    refine List.Pairwise.imp (fun {a b} hlt heq => ?_) h
    rw [heq] at hlt
    exact List.lt_irrefl _ hlt
  · intro h
    refine ((pairwise_inOrder samples).and h).imp ?_
    rintro a b ⟨hle, hne⟩
    rw [bytesOf_lt_iff, ← String.not_le]
    intro hge
    exact hne (String.le_antisymm hle hge)

/-! ### Splitting by a condition on names -/

/-- Two lists divide the samples at some places by a condition on their names. -/
structure Splits {Place : Type} (IsPlace : Place → Prop) (sample : Place → Sample)
    (keep : String → Bool) (kept left : List Sample) : Prop where
  /-- Together they are the samples of all places that hold one, and each place has its
  sample once. -/
  all : ∃ places : List Place, places.Nodup ∧ (∀ place, place ∈ places ↔ IsPlace place) ∧
    (kept ++ left).Perm (places.map sample)
  /-- All paths are different. -/
  nodup : ((kept ++ left).map (·.path)).Nodup
  /-- No sample is in both. -/
  disjoint : kept.Disjoint left
  /-- One holds those that satisfy the condition. -/
  satisfies : ∀ s ∈ kept, keep s.name = true
  /-- The other one holds those that do not. -/
  violates : ∀ s ∈ left, keep s.name = false
  /-- They are in the order of their names, byte by byte. -/
  kept_ordered : kept.Pairwise fun a b => bytesOf a.name ≤ bytesOf b.name
  left_ordered : left.Pairwise fun a b => bytesOf a.name ≤ bytesOf b.name

/-- What is gathered of some samples. -/
def gathered (keep : String → Bool) (exclude : Bool) (samples : List Sample) : List Sample :=
  inOrder (select keep exclude samples)

section Gathered

variable (keep : String → Bool) (samples : List Sample)

theorem mem_gathered {exclude : Bool} {s : Sample} :
    s ∈ gathered keep exclude samples ↔ s ∈ samples ∧ keep s.name = !exclude := by
  rw [gathered, (perm_inOrder _).mem_iff, select, List.mem_filter, bne_iff_ne, Bool.eq_not]

theorem gathered_append_perm :
    (gathered keep false samples ++ gathered keep true samples).Perm samples := by
  refine ((perm_inOrder _).append (perm_inOrder _)).trans ?_
  have h := List.filter_append_perm (fun s : Sample => keep s.name) samples
  simpa [select] using h

theorem pairwise_le_gathered (exclude : Bool) :
    (gathered keep exclude samples).Pairwise fun a b => bytesOf a.name ≤ bytesOf b.name := by
  refine (pairwise_inOrder _).imp fun {a b} hle => ?_
  rw [← List.not_lt, bytesOf_lt_iff, String.not_lt]
  exact hle

/-- Names are different if they are among those that are selected, and among those that are
not: a name is never among both. -/
theorem nodup_names_iff_select :
    (∀ exclude, ((select keep exclude samples).map (·.name)).Nodup) ↔
      (samples.map (·.name)).Nodup := by
  constructor
  · intro h
    refine List.pairwise_map.mpr (List.pairwise_iff_forall_sublist.mpr ?_)
    intro a b hab hname
    have hselected : [a, b].Sublist (select keep (!keep a.name) samples) := by
      have hboth : select keep (!keep a.name) [a, b] = [a, b] := by simp [select, hname]
      exact hboth ▸ hab.filter _
    exact List.pairwise_iff_forall_sublist.mp (List.pairwise_map.mp (h _)) hselected hname
  · intro h exclude
    exact h.sublist (List.filter_sublist.map _)

variable {samples}

/-- Samples of different names are gathered in one order, however they are listed. -/
theorem gathered_eq_of_perm {samples' : List Sample} (hnames : (samples.map (·.name)).Nodup)
    (hperm : samples.Perm samples') (exclude : Bool) :
    gathered keep exclude samples' = gathered keep exclude samples := by
  refine (inOrder_eq_of_perm (hperm.filter _) ?_).symm
  exact (nodup_names_iff_select keep samples).mpr hnames exclude

/-- Where the same is gathered of the samples listed the other way round, all names are
different. -/
theorem nodup_names_of_gathered_reverse (hnodup : samples.Nodup)
    (h : ∀ exclude, gathered keep exclude samples.reverse = gathered keep exclude samples) :
    (samples.map (·.name)).Nodup := by
  refine (nodup_names_iff_select keep samples).mp fun exclude => ?_
  refine nodup_names_of_inOrder_reverse (hnodup.filter _) ?_
  have hreverse := h exclude
  rwa [gathered, select, List.filter_reverse] at hreverse

end Gathered

theorem gatherWalk_eq_ok {read : PatternReader} {pattern : String} {keep : String → Bool}
    (hread : read pattern = some keep) (root : List UInt8) (w : Walk) (exclude : Bool) :
    gatherWalk read root (some w) pattern exclude =
      .ok (gathered keep exclude (w.samples root)) := by
  rw [gatherWalk, hread]
  rfl

theorem gatherBy_eq_ok {read : PatternReader} {pattern : String} {keep : String → Bool}
    (hread : read pattern = some keep) {t : FileTree} {root : String} {w : Walk}
    (hwalk : walkFrom t root = some w) (exclude : Bool) :
    gatherBy read t root pattern exclude =
      .ok (gathered keep exclude (w.samples (bytesOf root))) := by
  rw [gatherBy, hwalk, gatherWalk_eq_ok hread]

theorem readPattern_eq_some {pattern : String} {p : Pattern}
    (hp : Pattern.parse? pattern = some p) : readPattern pattern = some p.isFoundIn := by
  rw [readPattern, hp]
  rfl

theorem gather_eq_ok {t : FileTree} {root pattern : String} {p : Pattern}
    {samples : List Sample} (hp : Pattern.parse? pattern = some p)
    (hsamples : (walkFrom t root).map (Walk.samples (bytesOf root)) = some samples)
    (exclude : Bool) :
    gather t root pattern exclude = .ok (gathered p.isFoundIn exclude samples) := by
  obtain ⟨w, hwalk, rfl⟩ := Option.map_eq_some_iff.mp hsamples
  exact gatherBy_eq_ok (readPattern_eq_some hp) hwalk exclude

namespace IsListing

variable {entries : List WalkEntry}

theorem nodup_samples (h : IsListing entries) (root : List UInt8) :
    ((Walk.folder entries).samples root).Nodup :=
  (h.nodup_paths root).of_map _

/-- Any condition on names splits the samples of a walk. -/
theorem splits_samples (h : IsListing entries) (root : List UInt8) (keep : String → Bool) :
    Splits (IsSamplePlace entries) (sampleOf root) keep
      (gathered keep false ((Walk.folder entries).samples root))
      (gathered keep true ((Walk.folder entries).samples root)) where
  all := ⟨samplePlaces entries, h.nodup_samplePlaces, fun _ => mem_samplePlaces,
    samples_folder root entries ▸ gathered_append_perm keep _⟩
  nodup := ((gathered_append_perm keep _).map _).nodup_iff.mpr (h.nodup_paths root)
  disjoint := fun s hkept hleft => by
    have h := ((mem_gathered keep _).mp hkept).2.symm.trans ((mem_gathered keep _).mp hleft).2
    cases h
  satisfies := fun s hs => ((mem_gathered keep _).mp hs).2
  violates := fun s hs => ((mem_gathered keep _).mp hs).2
  kept_ordered := pairwise_le_gathered keep _ false
  left_ordered := pairwise_le_gathered keep _ true

/-- The names of what is gathered increase just if no two samples get the same name. -/
theorem increasing_iff (h : IsListing entries) (root : List UInt8) (keep : String → Bool) :
    (∀ exclude, Increasing (gathered keep exclude ((Walk.folder entries).samples root))) ↔
      NamesDiffer entries := by
  rw [← h.nodup_names_iff root, ← nodup_names_iff_select keep]
  exact forall_congr' fun exclude => increasing_inOrder_iff _

/-- What is gathered does not depend on the order of a walk just if no two samples get the
same name. -/
theorem gathered_eq_iff (h : IsListing entries) (root : List UInt8) (keep : String → Bool) :
    (∀ entries', entries.Perm entries' → ∀ exclude,
      gathered keep exclude ((Walk.folder entries').samples root) =
        gathered keep exclude ((Walk.folder entries).samples root)) ↔ NamesDiffer entries := by
  rw [← h.nodup_names_iff root]
  constructor
  · intro heq
    refine nodup_names_of_gathered_reverse keep (h.nodup_samples root) fun exclude => ?_
    rw [← heq entries.reverse entries.reverse_perm.symm exclude, Walk.samples, Walk.samples,
      List.filterMap_reverse]
  · intro hnames entries' hperm exclude
    exact gathered_eq_of_perm keep hnames (hperm.filterMap _) exclude

end IsListing

/-! ### The samples in a tree of files -/

/-- A file with the extension of samples stands at a place below a folder. -/
def HoldsSample (t : FileTree) (loc rel : Location) : Prop :=
  ∃ front stem content, stem ≠ "" ∧ rel = front ++ [stem ++ ".lox"] ∧
    t.get? (loc ++ rel) = some (.file content)

/-- The sample at a place below the searched folder. -/
def sampleIn (root : String) (rel : Location) : Sample :=
  ⟨bytesOf (joinPath root rel.path), rel.path⟩

/-- What a walk lists of a folder in a tree of files. -/
def listing (t : FileTree) (loc : Location) : List WalkEntry :=
  (t.below loc).map .ofTree

theorem walkFrom_of_isFolder {t : FileTree} {root : String} {loc : Location} (hroot : root ≠ "")
    (hloc : t.resolve root = .ok loc) (hfolder : t.isFolder loc = true) :
    walkFrom t root = some (.folder (listing t loc)) := by
  have hget := FileTree.isFolder_iff.mp hfolder
  simp [walkFrom, hroot, hloc, FileTree.find, hget, Except.toOption, listing]

theorem mem_listing {t : FileTree} {loc : Location} {e : WalkEntry} (he : e ∈ listing t loc) :
    ∃ rel entry, rel ≠ [] ∧ t.get? (loc ++ rel) = some entry ∧ e = .ofTree (rel, entry) := by
  obtain ⟨⟨rel, entry⟩, hmem, rfl⟩ := List.mem_map.mp he
  obtain ⟨hne, hget⟩ := FileTree.mem_below.mp hmem
  exact ⟨rel, entry, hne, hget, rfl⟩

theorem isListing_listing {t : FileTree} (ht : t.SlashFree) (loc : Location) :
    IsListing (listing t loc) where
  nodup := by
    have hnames : (listing t loc).map (·.names) =
        (locations (t.below loc)).map (·.map bytesOf) := by
      simp only [listing, locations, List.map_map]
      rfl
    rw [hnames]
    exact (t.nodup_locations_below loc).map (List.map_injective_iff.mpr bytesOf_injective)
  named := fun e he => by
    obtain ⟨rel, entry, hne, -, rfl⟩ := mem_listing he
    simpa [WalkEntry.ofTree] using hne
  slashFree := fun e he name hname => by
    obtain ⟨rel, entry, hne, hget, rfl⟩ := mem_listing he
    obtain ⟨text, htext, rfl⟩ := List.mem_map.mp hname
    exact notMem_bytesOf (by decide) (ht.notMem_of_get? hne hget text htext)

/-- In a tree of files all names are texts. -/
theorem namesDiffer_listing {t : FileTree} (ht : t.SlashFree) (loc : Location) :
    NamesDiffer (listing t loc) := by
  refine (isListing_listing ht loc).namesDiffer_of_texts fun e he => ?_
  obtain ⟨rel, entry, -, -, rfl⟩ := mem_listing he
  exact ⟨rel, rfl⟩

theorem isSamplePlace_listing {t : FileTree} {loc : Location} {names : List RawName} :
    IsSamplePlace (listing t loc) names ↔
      ∃ rel, HoldsSample t loc rel ∧ names = rel.map bytesOf := by
  constructor
  · rintro ⟨e, he, ⟨hfile, front, stem, hstem, hnames⟩, rfl⟩
    obtain ⟨rel, entry, -, hget, rfl⟩ := mem_listing he
    cases entry with
    | folder => cases hfile
    | file content =>
      refine ⟨rel, ?_, rfl⟩
      obtain ⟨front', last, rfl, -, hlast⟩ := List.map_eq_append_iff.mp hnames
      obtain ⟨name, rfl, hname⟩ := List.map_eq_singleton_iff.mp hlast
      obtain ⟨text, rfl, rfl⟩ := Text.eq_append_of_bytesOf_eq rfl hname
      refine ⟨front', text, content, ?_, rfl, hget⟩
      rintro rfl
      exact hstem rfl
  · rintro ⟨rel, ⟨front, stem, content, hstem, rfl, hget⟩, rfl⟩
    have hbelow : (front ++ [stem ++ ".lox"], Entry.file content) ∈ t.below loc :=
      FileTree.mem_below.mpr ⟨by simp, hget⟩
    refine ⟨_, List.mem_map_of_mem hbelow,
      ⟨rfl, front.map bytesOf, bytesOf stem, bytesOf_ne_nil hstem, ?_⟩, rfl⟩
    simp [WalkEntry.ofTree, bytesOf_append]

/-- A path ends in a slash just if its bytes do. -/
theorem getLast?_bytesOf_eq_slash {s : String} :
    (bytesOf s).getLast? = some slash ↔ s.toList.getLast? = some '/' := by
  have hslash : bytesOf "/" = [slash] := rfl
  constructor
  · intro h
    obtain ⟨bytes, hbytes⟩ := List.getLast?_eq_some_iff.mp h
    obtain ⟨stem, rfl, -⟩ := Text.eq_append_of_bytesOf_eq rfl (hslash ▸ hbytes)
    simp
  · intro h
    obtain ⟨front, hfront⟩ := List.getLast?_eq_some_iff.mp h
    have hs : s = String.ofList front ++ "/" := by
      rw [← String.toList_inj, hfront, String.toList_append, String.toList_ofList]
      rfl
    rw [hs, bytesOf_append, hslash, List.getLast?_concat]

/-- The bytes of a path inside a folder. -/
theorem joinRaw_bytesOf (folder : String) {path : String} (hpath : path ≠ "") :
    joinRaw (bytesOf folder) (bytesOf path) = bytesOf (joinPath folder path) := by
  unfold joinRaw joinPath
  rw [if_neg (bytesOf_ne_nil hpath)]
  by_cases hfolder : folder = ""
  · subst hfolder
    rfl
  · simp only [bytesOf_ne_nil hfolder, getLast?_bytesOf_eq_slash, if_neg hfolder, decide_false,
      Bool.false_or, decide_eq_true_eq]
    split
    · rw [bytesOf_append]
    · rw [bytesOf_append, bytesOf_append, List.append_assoc]
      rfl

theorem HoldsSample.sampleOf_eq {t : FileTree} {loc rel : Location} (h : HoldsSample t loc rel)
    (root : String) : sampleOf (bytesOf root) (rel.map bytesOf) = sampleIn root rel := by
  have hpath : rel.path ≠ "" := by
    obtain ⟨front, stem, content, -, rfl, -⟩ := h
    -- there is one name that is not empty, or there are two and a slash between them
    cases front with
    | nil => simp [Location.path]
    | cons name more =>
      obtain ⟨next, last, hmore⟩ := List.exists_cons_of_ne_nil
        (List.append_ne_nil_of_right_ne_nil more (List.cons_ne_nil (stem ++ ".lox") []))
      simp [Location.path, hmore, String.intercalate_cons_cons]
  rw [sampleOf, sampleIn, rawPath_map_bytesOf, joinRaw_bytesOf root hpath, lossy_bytesOf]

/-- The samples of the places that a walk lists are those of the places in the tree. -/
theorem Splits.of_listing {t : FileTree} {loc : Location} {root : String} {keep : String → Bool}
    {kept left : List Sample}
    (h : Splits (IsSamplePlace (listing t loc)) (sampleOf (bytesOf root)) keep kept left) :
    Splits (HoldsSample t loc) (sampleIn root) keep kept left := by
  obtain ⟨places, hnodup, hplaces, hperm⟩ := h.all
  have hback (rel : Location) : (rel.map bytesOf).map lossy = rel := by
    simp [Function.comp_def, lossy_bytesOf]
  refine { h with all := ⟨places.map (·.map lossy), ?_, fun rel => ?_, ?_⟩ }
  · refine hnodup.map_on ?_
    intro names hnames names' hnames' heq
    obtain ⟨rel, -, rfl⟩ := isSamplePlace_listing.mp ((hplaces names).mp hnames)
    obtain ⟨rel', -, rfl⟩ := isSamplePlace_listing.mp ((hplaces names').mp hnames')
    rw [hback, hback] at heq
    rw [heq]
  · rw [List.mem_map]
    constructor
    · rintro ⟨names, hnames, rfl⟩
      obtain ⟨rel, hrel, rfl⟩ := isSamplePlace_listing.mp ((hplaces names).mp hnames)
      rwa [hback]
    · intro hrel
      exact ⟨_, (hplaces _).mpr (isSamplePlace_listing.mpr ⟨rel, hrel, rfl⟩), hback rel⟩
  · refine hperm.trans (List.Perm.of_eq ?_)
    rw [List.map_map]
    refine List.map_congr_left fun names hnames => ?_
    obtain ⟨rel, hrel, rfl⟩ := isSamplePlace_listing.mp ((hplaces names).mp hnames)
    rw [Function.comp_apply, hback, hrel.sampleOf_eq]

/-- Listing the entries of the tree in another order lists the walk in another order. -/
theorem walkFrom_of_perm {t u : FileTree} (h : t.entries.Perm u.entries) {root : String}
    {loc : Location} (hroot : root ≠ "") (hloc : t.resolve root = .ok loc)
    (hfolder : t.isFolder loc = true) :
    walkFrom u root = some (.folder (listing u loc)) ∧ (listing t loc).Perm (listing u loc) := by
  have hfolder' : u.isFolder loc = true := by
    rw [FileTree.isFolder_iff] at hfolder ⊢
    rw [← FileTree.get?_eq_of_perm h, hfolder]
  exact ⟨walkFrom_of_isFolder hroot (FileTree.resolve_eq_of_perm h root ▸ hloc) hfolder',
    (h.filterMap _).map _⟩

/-! ### Gathering -/

/-- A tree with a folder named like a sample, a file whose name is the extension alone,
and names that go on differently behind the same beginning. -/
def nestedTree : FileTree where
  entries := [(["lox"], .folder), (["lox", "b"], .folder),
    (["lox", "b", "x.lox"], .file (.text "")), (["lox", "b.lox"], .folder),
    (["lox", "b.lox", "x.lox"], .file (.text "")), (["lox", ".lox"], .file (.text "")),
    (["lox", "a.lox"], .file (.text "")), (["lox", "a.txt"], .file (.text ""))]
  distinct := by decide

/-- Two files whose names are no texts and get the same text. -/
def brokenNames : List WalkEntry :=
  [⟨[0xFF :: bytesOf ".lox"], true⟩, ⟨[0xFE :: bytesOf ".lox"], true⟩]

theorem not_namesDiffer_brokenNames : ¬ NamesDiffer brokenNames := by
  intro h
  have hplace (e : WalkEntry) (he : e ∈ brokenNames) : IsSamplePlace brokenNames e.names := by
    refine ⟨e, he, ?_, rfl⟩
    simp only [brokenNames, List.mem_cons, List.not_mem_nil, or_false] at he
    rcases he with rfl | rfl
    · exact ⟨rfl, [], [0xFF], by decide, rfl⟩
    · exact ⟨rfl, [], [0xFE], by decide, rfl⟩
  have heq := h _ _ (hplace ⟨[0xFF :: bytesOf ".lox"], true⟩ (by simp [brokenNames]))
    (hplace ⟨[0xFE :: bytesOf ".lox"], true⟩ (by simp [brokenNames])) (by decide +kernel)
  exact absurd heq (by decide +kernel)

end Suite

end TreeSmith
