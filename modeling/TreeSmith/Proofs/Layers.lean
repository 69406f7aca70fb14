import TreeSmith.Proofs.ArtifactFiles
import TreeSmith.Proofs.TomlDocument
import TreeSmith.Settings.Layer

/-!
# Documents as layers of settings

A document of plain tables, put as a layer on top of settings that have no table of the same
names, adds its tables with all keys in lower case.  For ASCII that is the plain lower case
of letters, since no other letter becomes one of them.

## Main results

* `Text.lowercase_of_ascii` — the lower case of ASCII texts.
* `Setting.readPath?_of_isBareKey` — a key without quotes is a path of one step.
* `Setting.addLayer_tables` — **what a document adds.**
-/

namespace TreeSmith

/-! ### Lower case -/

namespace Text

theorem isUpper_iff {c : Char} : c.isUpper = true ↔ 0x41 ≤ c.toNat ∧ c.toNat ≤ 0x5A := by
  simp [Char.isUpper, UInt32.le_iff_toNat_le]

theorem CaseRange.has_iff {range : CaseRange} {n : Nat} : range.has n = true ↔
    range.first ≤ n ∧ n ≤ range.last ∧ (n - range.first) % range.step = 0 := by
  simp [has, and_assoc]

/-- Only the first range holds ASCII letters. -/
theorem shiftCase_lowerRanges {c : Char} (hc : c.toNat < 0x80) :
    shiftCase (lowerRanges.map CaseRange.of) c = c.toLower := by
  have hothers : ∀ entry ∈ lowerRanges.tail, 0x80 ≤ entry.1 := by decide +kernel
  have hnone : (lowerRanges.tail.map CaseRange.of).find? (·.has c.toNat) = none := by
    rw [List.find?_eq_none]
    intro range hrange hhas
    obtain ⟨entry, hentry, rfl⟩ := List.mem_map.mp hrange
    have hfirst : entry.1 ≤ c.toNat := (CaseRange.has_iff.mp hhas).1
    exact absurd (Nat.lt_of_le_of_lt hfirst hc) (Nat.not_lt.mpr (hothers entry hentry))
  have hfind : (lowerRanges.map CaseRange.of).find? (·.has c.toNat) =
      if c.isUpper then some (.of (0x41, 0x5A, 1, 0x61)) else none := by
    rw [← hnone, show lowerRanges.map CaseRange.of =
      CaseRange.of (0x41, 0x5A, 1, 0x61) :: lowerRanges.tail.map CaseRange.of from rfl,
      List.find?_cons]
    have hhas : (CaseRange.of (0x41, 0x5A, 1, 0x61)).has c.toNat = c.isUpper := by
      rw [Bool.eq_iff_iff, isUpper_iff, CaseRange.has_iff]
      simp [CaseRange.of, Nat.mod_one]
    rw [hhas]
    cases c.isUpper <;> rfl
  rw [shiftCase, hfind]
  cases hup : c.isUpper with
  | true =>
    rw [Char.toLower_eq_of_isUpper hup]
    rfl
  | false =>
    rw [Char.toLower_eq_of_not_isUpper (by simp [hup])]
    rfl

theorem lowerFrom_of_ascii : ∀ {cs : List Char} (cased : Bool), (∀ c ∈ cs, c.toNat < 0x80) →
    lowerFrom cased cs = cs.map Char.toLower := by
  intro cs
  induction cs with
  | nil => exact fun _ _ => rfl
  | cons c cs ih =>
    intro cased h
    obtain ⟨hc, hcs⟩ := List.forall_mem_cons.mp h
    have hsigma : c.toNat ≠ 0x3A3 := by omega
    have hdotted : c.toNat ≠ 0x130 := by omega
    rw [lowerFrom, ih _ hcs, lowerChar, if_neg hdotted, shiftCase_lowerRanges hc]
    simp [hsigma]

/-- The lower case of an ASCII text. -/
theorem lowercase_of_ascii {s : String} (h : ∀ c ∈ s.toList, c.toNat < 0x80) :
    lowercase s = s.toLower := by
  rw [lowercase, lowerFrom_of_ascii false h, String.toLower, ← String.toList_map,
    String.ofList_toList]

theorem toLower_toLower (s : String) : s.toLower.toLower = s.toLower := by
  apply String.toList_inj.mp
  simp [String.toLower, String.toList_map]

end Text

/-! ### Layers -/

namespace Toml

theorem IsBareKey.ascii {key : String} (h : IsBareKey key) : ∀ c ∈ key.toList, c.toNat < 0x80 := by
  intro c hc
  have hbare := h.2 c hc
  simp only [isBareChar, Char.isAlphanum, Char.isAlpha, Char.isUpper, Char.isLower, Char.isDigit,
    Bool.or_eq_true, Bool.and_eq_true, decide_eq_true_eq, beq_iff_eq, UInt32.le_iff_toNat_le,
    ge_iff_le] at hbare
  rcases hbare with (((hup | hlow) | hdigit) | rfl) | rfl
  · exact Nat.lt_of_le_of_lt hup.2 (by decide)
  · exact Nat.lt_of_le_of_lt hlow.2 (by decide)
  · exact Nat.lt_of_le_of_lt hdigit.2 (by decide)
  · decide
  · decide

theorem isBareKey_of_isIdentifier {name : String} (h : Name.isIdentifier name = true) :
    IsBareKey name := by
  refine ⟨?_, fun c hc => ?_⟩
  · intro hnil
    rw [Name.isIdentifier, hnil] at h
    cases h
  · have hpart := Name.isPart_of_isIdentifier h c hc
    rw [Name.isPart, Bool.or_eq_true, decide_eq_true_eq] at hpart
    simp only [isBareChar, Bool.or_eq_true, beq_iff_eq]
    exact .inl hpart

/-- What a table adds to settings. -/
def TextTable.layered (table : TextTable) : String × Setting :=
  (Text.lowercase table.name,
    .table (table.pairs.map fun e => (Text.lowercase e.1, .text e.2)))

end Toml

namespace Setting

theorem find?_eq_none {key : String} {es : List (String × Setting)} (h : key ∉ es.map (·.1)) :
    find? key es = none := by
  rw [find?, find?_name_eq_none h]
  rfl

/-- A new key goes to the end. -/
theorem put_of_notMem {key : String} {es : List (String × Setting)} (h : key ∉ es.map (·.1))
    (v : Setting) : put key v es = es ++ [(key, v)] := by
  induction es with
  | nil => rfl
  | cons e es ih =>
    rw [List.map_cons, List.mem_cons, not_or] at h
    rw [put, if_neg (Ne.symm h.1), ih h.2, List.cons_append]

/-- Strings whose keys are new, and different in lower case, are added in order. -/
theorem assignAll_texts : ∀ {pairs : List (String × String)} {es : List (String × Setting)},
    (es.map (·.1) ++ pairs.map fun e => Text.lowercase e.1).Nodup →
      assignAll (pairs.map fun e => (e.1, .text e.2)) (.table es) =
        .table (es ++ pairs.map fun e => (Text.lowercase e.1, .text e.2)) := by
  intro pairs
  induction pairs with
  | nil =>
    intro es _
    simp [assignAll]
  | cons e pairs ih =>
    intro es h
    have hkey : Text.lowercase e.1 ∉ es.map (·.1) := fun hmem =>
      List.disjoint_of_nodup_append h hmem List.mem_cons_self
    rw [List.map_cons, assignAll, entries, assign, put_of_notMem hkey]
    · rw [ih (by simpa using h)]
      simp
    · intro incoming heq
      cases heq

/-- A key without quotes is a path of one step. -/
theorem readPath?_of_isBareKey {name : String} (h : Toml.IsBareKey name) :
    readPath? name = some [.key name] := by
  have hchars : ∀ c ∈ name.toList, isPathChar c = true := by
    intro c hc
    have hbare := h.2 c hc
    simp only [Toml.isBareChar, Bool.or_eq_true, beq_iff_eq] at hbare
    simp only [isPathChar, Bool.or_eq_true, beq_iff_eq]
    tauto
  have hname : readName name.toList = some (name, []) := by
    have htake : name.toList.takeWhile isPathChar = name.toList :=
      List.takeWhile_eq_self_iff.mpr hchars
    have hdrop : name.toList.dropWhile isPathChar = [] := List.dropWhile_eq_nil_iff.mpr hchars
    have hempty : name.toList.isEmpty = false := by simpa using h.1
    simp only [readName, htake, hdrop, hempty, String.ofList_toList]
    rfl
  rw [readPath?, hname]
  rfl

theorem ofTomlEntries_map {α : Type} (f : α → String × Toml.Value) (as : List α) :
    ofTomlEntries (as.map f) = as.map fun a => ((f a).1, ofToml (f a).2) := by
  induction as with
  | nil => rfl
  | cons a as ih => rw [List.map_cons, ofTomlEntries, ih, List.map_cons]

theorem ofToml_value (table : Toml.TextTable) :
    ofToml table.value = .table (table.pairs.map fun e => (e.1, .text e.2)) := by
  rw [Toml.TextTable.value, ofToml, ofTomlEntries_map]
  simp only [ofToml]

/-- A table under a new name is added with its keys in lower case. -/
theorem assignKey_table {table : Toml.TextTable} {es : List (String × Setting)}
    (hname : Toml.IsBareKey table.name) (hnew : Text.lowercase table.name ∉ es.map (·.1))
    (hkeys : (table.pairs.map fun e => Text.lowercase e.1).Nodup) :
    assignKey (.table es) (table.name, ofToml table.value) = .table (es ++ [table.layered]) := by
  have hadded : assignAll (table.pairs.map fun e => (e.1, .text e.2)) (.table []) =
      .table (table.pairs.map fun e => (Text.lowercase e.1, .text e.2)) :=
    assignAll_texts (by simpa using hkeys)
  rw [assignKey, readPath?_of_isBareKey hname]
  simp only [assignAt, entries, ofToml_value, assign, find?_eq_none hnew, Option.getD_none, hadded,
    put_of_notMem hnew]
  rfl

/-- A document of tables with new names is added with all keys in lower case. -/
theorem addLayer_tables : ∀ {tables : List Toml.TextTable} {es : List (String × Setting)},
    (∀ table ∈ tables, table.Plain) →
    (∀ table ∈ tables, (table.pairs.map fun e => Text.lowercase e.1).Nodup) →
    (es.map (·.1) ++ tables.map fun t => Text.lowercase t.name).Nodup →
      addLayer (.table es) (ofTomlEntries (tables.map fun t => (t.name, t.value))) =
        .table (es ++ tables.map Toml.TextTable.layered) := by
  intro tables
  induction tables with
  | nil =>
    intro es _ _ _
    simp [addLayer, ofTomlEntries]
  | cons table tables ih =>
    intro es hplain hkeys h
    obtain ⟨htable, hplain⟩ := List.forall_mem_cons.mp hplain
    obtain ⟨htableKeys, hkeys⟩ := List.forall_mem_cons.mp hkeys
    have hnew : Text.lowercase table.name ∉ es.map (·.1) := fun hmem =>
      List.disjoint_of_nodup_append h hmem List.mem_cons_self
    have hnext : ((es ++ [table.layered]).map (·.1) ++
        tables.map fun t => Text.lowercase t.name).Nodup := by
      simpa [Toml.TextTable.layered] using h
    have hmore := ih hplain hkeys hnext
    rw [List.map_cons, ofTomlEntries, addLayer, List.foldl_cons,
      assignKey_table htable.name hnew htableKeys, ← addLayer, hmore]
    simp

end Setting

end TreeSmith
