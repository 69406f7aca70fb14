import Mathlib.Data.List.Nodup
import TreeSmith.Proofs.TomlText
import TreeSmith.Settings.Save
import TreeSmith.Toml.Reader

/-!
# Documents of tables are read back

A document whose tables hold strings under keys without quotes is read line by line into
headers and pairs, and the lines build the tables again, as long as no table and no key of
one table comes up twice.

## Main definitions

* `Toml.IsBareKey` — a key that stands without quotes.
* `Toml.TextTable` — a table of strings, its text and its lines.
* `Toml.documentText` — the text of tables with empty lines between them.

## Main results

* `Toml.readLines_settingLine`, `Toml.readLines_header` — lines are read back.
* `Toml.build_lines` — the lines of tables build them.
* `Toml.parse?_documentText` — **a document is read as its tables.**
-/

namespace TreeSmith.Toml

/-! ### Keys without quotes -/

/-- A key that stands without quotes. -/
def IsBareKey (key : String) : Prop :=
  key.toList ≠ [] ∧ ∀ c ∈ key.toList, isBareChar c = true

theorem ne_of_isBareChar {c d : Char} (hc : isBareChar c = true) (hd : isBareChar d = false) :
    c ≠ d := by
  rintro rfl
  rw [hc] at hd
  cases hd

theorem isSpace_of_isBareChar {c : Char} (hc : isBareChar c = true) : isSpace c = false := by
  rw [isSpace, Bool.or_eq_false_iff, beq_eq_false_iff_ne, beq_eq_false_iff_ne]
  exact ⟨ne_of_isBareChar hc rfl, ne_of_isBareChar hc rfl⟩

theorem IsBareKey.exists_cons {key : String} (h : IsBareKey key) :
    ∃ c cs, key.toList = c :: cs ∧ isBareChar c = true := by
  obtain ⟨hne, hchars⟩ := h
  obtain ⟨c, cs, hkey⟩ := List.exists_cons_of_ne_nil hne
  exact ⟨c, cs, hkey, hchars c (by rw [hkey]; exact List.mem_cons_self)⟩

theorem IsBareKey.toList_keyText {key : String} (h : IsBareKey key) :
    (keyText key).toList = key.toList := by
  have hall : key.toList.all isBareChar = true := List.all_eq_true.mpr h.2
  have hempty : key.toList.isEmpty = false := by simpa using h.1
  simp only [keyText, keyChars, hall, hempty, String.toList_ofList]
  rfl

/-- A key without quotes ends where no more of its characters follow. -/
theorem IsBareKey.readKey_append {key : String} (h : IsBareKey key) {rest : List Char}
    (hend : rest.takeWhile isBareChar = []) (hdot : (skipSpace rest).head? ≠ some '.') :
    readKey (key.toList ++ rest) = some ([key], skipSpace rest) := by
  obtain ⟨c, cs, hkey, hc⟩ := h.exists_cons
  have hstart : skipSpace (key.toList ++ rest) = key.toList ++ rest := by
    rw [hkey, List.cons_append, skipSpace,
      List.dropWhile_cons_of_neg (by simp [isSpace_of_isBareChar hc])]
  have hquote : readShortText (key.toList ++ rest) = none := by
    rw [hkey, List.cons_append, readShortText.eq_def]
    split
    · next heq => exact absurd (List.cons.inj heq).1 (ne_of_isBareChar hc rfl)
    · next heq => exact absurd (List.cons.inj heq).1 (ne_of_isBareChar hc rfl)
    · rfl
  have hbare : (key.toList ++ rest).takeWhile isBareChar = key.toList := by
    rw [List.takeWhile_append_of_pos h.2, hend, List.append_nil]
  have hrest : (key.toList ++ rest).dropWhile isBareChar = rest := by
    rw [List.dropWhile_append_of_pos h.2]
    simpa [hend] using List.takeWhile_append_dropWhile (p := isBareChar) (l := rest)
  have hempty : key.toList.isEmpty = false := by simpa using h.1
  have hsimple : readSimpleKey (key.toList ++ rest) = some (key, rest) := by
    simp only [readSimpleKey, hquote, hbare, hrest, hempty, String.ofList_toList]
    rfl
  rw [readKey, show maxDepth - 1 = 78 + 1 from rfl, readKeyParts, hstart, hsimple]
  simp only [Option.bind_eq_bind, Option.bind_some]
  split
  · next heq => exact absurd (by rw [heq, List.head?_cons]) hdot
  · rfl

/-! ### Lines -/

theorem skipFiller_cons {c : Char} (hbreak : c ≠ '\n') (hreturn : c ≠ '\r') (hcomment : c ≠ '#')
    (hspace : isSpace c = false) (cs : List Char) :
    skipFiller (c :: cs).length (c :: cs) = c :: cs := by
  rw [List.length_cons, skipFiller, afterBreak?_cons hbreak hreturn]
  · simp [hspace]
  · exact hcomment

/-- An empty line says nothing. -/
theorem readLines_break (fuel : Nat) (cs : List Char) :
    readLines fuel ('\n' :: cs) = readLines fuel cs := by
  cases fuel with
  | zero => rfl
  | succ k => rfl

theorem readLines_mono : ∀ {k k' : Nat} {cs : List Char} {lines : List Line}, k ≤ k' →
    readLines k cs = some lines → readLines k' cs = some lines := by
  intro k
  induction k with
  | zero =>
    intro k' cs lines _ h
    cases h
  | succ k ih =>
    intro k' cs lines hk h
    obtain ⟨j, rfl⟩ : ∃ j, k' = j + 1 := ⟨k' - 1, by omega⟩
    rw [readLines] at h ⊢
    split at h
    · exact h
    · simp only [Option.bind_eq_bind, Option.bind_eq_some_iff] at h ⊢
      obtain ⟨line, hline, rest, hrest, more, hmore, hlines⟩ := h
      exact ⟨line, hline, rest, hrest, more, ih (by omega) hmore, hlines⟩

/-- One line in front of others. -/
theorem readLines_line {c : Char} (hbreak : c ≠ '\n') (hreturn : c ≠ '\r') (hcomment : c ≠ '#')
    (hspace : isSpace c = false) {cs rest : List Char} {line : Line} {lines : List Line}
    (hline : readLine (c :: cs) = some (line, '\n' :: rest)) (hlength : rest.length ≤ cs.length)
    (h : readLines (rest.length + 1) rest = some lines) :
    readLines ((c :: cs).length + 1) (c :: cs) = some (line :: lines) := by
  have hfuel : rest.length + 1 ≤ (c :: cs).length := Nat.succ_le_succ hlength
  have hmore := readLines_mono hfuel h
  rw [readLines, skipFiller_cons hbreak hreturn hcomment hspace]
  simp only [hline, Option.bind_eq_bind, Option.bind_some]
  rw [show endLine ('\n' :: rest) = some rest from rfl]
  simp only [Option.bind_some, hmore]
  rfl

theorem toList_settingLine {key : String} (hkey : IsBareKey key) (value : String) :
    (settingLine key value).toList =
      key.toList ++ ' ' :: '=' :: ' ' :: (valueChars value.toList ++ ['\n']) := by
  simp [settingLine, valueText, hkey.toList_keyText, String.toList_append]

/-- A string as a value starts with a quote. -/
theorem exists_cons_valueChars (cs : List Char) :
    ∃ c more, valueChars cs = c :: more ∧ (c = '"' ∨ c = '\x27') := by
  simp only [valueChars]
  split_ifs
  · exact ⟨_, _, rfl, .inl rfl⟩
  · exact ⟨_, _, rfl, .inr rfl⟩
  · exact ⟨_, _, rfl, .inl rfl⟩
  · exact ⟨_, _, rfl, .inr rfl⟩
  · exact ⟨_, _, rfl, .inl rfl⟩
  · exact ⟨_, _, rfl, .inl rfl⟩

theorem readValue_valueChars (fuel depth : Nat) (value : String) (rest : List Char) :
    readValue (fuel + 1) depth (valueChars value.toList ++ '\n' :: rest) =
      some (.text value, '\n' :: rest) := by
  have hread : readText (valueChars value.toList ++ '\n' :: rest) =
      some (value.toList, '\n' :: rest) := readText_valueChars (by simp) (by simp) value.toList
  obtain ⟨c, more, htext, hc⟩ := exists_cons_valueChars value.toList
  rw [htext, List.cons_append] at hread ⊢
  rcases hc with rfl | rfl
  · simp only [readValue, hread, Option.map_some, String.ofList_toList]
  · simp only [readValue, hread, Option.map_some, String.ofList_toList]

theorem readLine_pair {key : String} (hkey : IsBareKey key) (value : String) (rest : List Char) :
    readLine (key.toList ++ ' ' :: '=' :: ' ' :: (valueChars value.toList ++ '\n' :: rest)) =
      some (.pair [key] (.text value), '\n' :: rest) := by
  obtain ⟨c, cs, hcons, hc⟩ := hkey.exists_cons
  have hread := readValue_valueChars
    (' ' :: (valueChars value.toList ++ '\n' :: rest)).length 0 value rest
  have hstart : skipSpace (' ' :: (valueChars value.toList ++ '\n' :: rest)) =
      valueChars value.toList ++ '\n' :: rest := by
    obtain ⟨d, more, hvalue, hd⟩ := exists_cons_valueChars value.toList
    rw [hvalue]
    rcases hd with rfl | rfl <;> rfl
  generalize valueChars value.toList ++ '\n' :: rest = after at hread hstart ⊢
  have hname : readKey (key.toList ++ ' ' :: '=' :: ' ' :: after) =
      some ([key], '=' :: ' ' :: after) :=
    hkey.readKey_append rfl (by simp [skipSpace, isSpace])
  rw [readLine.eq_def]
  split
  · next heq =>
    rw [hcons] at heq
    exact absurd (List.cons.inj heq).1 (ne_of_isBareChar hc rfl)
  · next heq =>
    rw [hcons] at heq
    exact absurd (List.cons.inj heq).1 (ne_of_isBareChar hc rfl)
  · rw [hname]
    simp only [Option.bind_eq_bind, Option.bind_some]
    rw [skipChar, if_pos rfl, Option.bind_some, hstart, hread]
    rfl

theorem readLine_header {name : String} (hname : IsBareKey name) (rest : List Char) :
    readLine ('[' :: (name.toList ++ ']' :: rest)) = some (.header [name], rest) := by
  obtain ⟨c, cs, hcons, hc⟩ := hname.exists_cons
  have hread : readKey (name.toList ++ ']' :: rest) = some ([name], ']' :: rest) :=
    hname.readKey_append rfl (by simp [skipSpace, isSpace])
  rw [readLine.eq_def]
  split
  · next heq =>
    rw [hcons, List.cons_append, List.cons.injEq, List.cons.injEq] at heq
    exact absurd heq.2.1 (ne_of_isBareChar hc rfl)
  · next heq =>
    rw [← (List.cons.inj heq).2, hread]
    rfl
  · next hother => exact absurd rfl (hother _)

/-- A value under a key is read back, whatever lines follow. -/
theorem readLines_settingLine {key : String} (hkey : IsBareKey key) (value : String)
    {rest : List Char} {lines : List Line} (h : readLines (rest.length + 1) rest = some lines) :
    readLines (((settingLine key value).toList ++ rest).length + 1)
        ((settingLine key value).toList ++ rest) = some (.pair [key] (.text value) :: lines) := by
  obtain ⟨c, cs, hcons, hc⟩ := hkey.exists_cons
  have htext : (settingLine key value).toList ++ rest =
      key.toList ++ ' ' :: '=' :: ' ' :: (valueChars value.toList ++ '\n' :: rest) := by
    rw [toList_settingLine hkey]
    simp
  have hline := readLine_pair hkey value rest
  rw [htext]
  rw [hcons, List.cons_append] at hline ⊢
  refine readLines_line (ne_of_isBareChar hc rfl) (ne_of_isBareChar hc rfl)
    (ne_of_isBareChar hc rfl) (isSpace_of_isBareChar hc) hline ?_ h
  simp only [List.length_append, List.length_cons]
  omega

/-- The header of a table is read back, whatever lines follow. -/
theorem readLines_header {name : String} (hname : IsBareKey name) {rest : List Char}
    {lines : List Line} (h : readLines (rest.length + 1) rest = some lines) :
    readLines (('[' :: (name.toList ++ ']' :: '\n' :: rest)).length + 1)
        ('[' :: (name.toList ++ ']' :: '\n' :: rest)) = some (.header [name] :: lines) := by
  refine readLines_line (by decide) (by decide) (by decide) rfl (readLine_header hname _) ?_ h
  simp only [List.length_append, List.length_cons]
  omega

/-! ### Tables -/

/-- A table of strings with its name. -/
structure TextTable where
  /-- The name. -/
  name : String
  /-- The strings by their keys. -/
  pairs : List (String × String)

namespace TextTable

/-- The text of a table. -/
def text (table : TextTable) : String :=
  "[" ++ table.name ++ "]\n" ++ String.join (table.pairs.map fun e => settingLine e.1 e.2)

/-- The lines of a table. -/
def lines (table : TextTable) : List Line :=
  .header [table.name] :: table.pairs.map fun e => .pair [e.1] (.text e.2)

/-- The value of a table. -/
def value (table : TextTable) : Value :=
  .table (table.pairs.map fun e => (e.1, .text e.2))

/-- The keys of a table are different, and they and its name stand without quotes. -/
structure Plain (table : TextTable) : Prop where
  name : IsBareKey table.name
  keys : ∀ e ∈ table.pairs, IsBareKey e.1
  nodup : (table.pairs.map (·.1)).Nodup

end TextTable

theorem readLines_pairs {pairs : List (String × String)} (hkeys : ∀ e ∈ pairs, IsBareKey e.1)
    {rest : List Char} {lines : List Line} (h : readLines (rest.length + 1) rest = some lines) :
    let text := (String.join (pairs.map fun e => settingLine e.1 e.2)).toList ++ rest
    readLines (text.length + 1) text =
      some ((pairs.map fun e => Line.pair [e.1] (.text e.2)) ++ lines) := by
  induction pairs with
  | nil => simpa using h
  | cons e pairs ih =>
    obtain ⟨he, hkeys⟩ := List.forall_mem_cons.mp hkeys
    have hmore := readLines_settingLine he e.2 (ih hkeys)
    simpa [String.join_cons, List.append_assoc] using hmore

theorem TextTable.Plain.readLines_text {table : TextTable} (htable : table.Plain) {rest : List Char}
    {lines : List Line} (h : readLines (rest.length + 1) rest = some lines) :
    readLines ((table.text.toList ++ rest).length + 1) (table.text.toList ++ rest) =
      some (table.lines ++ lines) := by
  have hmore := readLines_header htable.name (readLines_pairs htable.keys h)
  have htext : table.text.toList ++ rest = '[' :: (table.name.toList ++ ']' :: '\n' ::
      ((String.join (table.pairs.map fun e => settingLine e.1 e.2)).toList ++ rest)) := by
    simp [TextTable.text, String.toList_append]
  rw [htext, hmore]
  rfl

/-- The text of tables, with an empty line between them. -/
def documentText : List TextTable → String
  | [] => ""
  | [table] => table.text
  | table :: next :: more => table.text ++ "\n" ++ documentText (next :: more)

theorem readLines_documentText : ∀ {tables : List TextTable}, (∀ table ∈ tables, table.Plain) →
    readLines ((documentText tables).toList.length + 1) (documentText tables).toList =
      some (tables.flatMap TextTable.lines)
  | [], _ => rfl
  | [table], h => by
    have hend : readLines (([] : List Char).length + 1) [] = some [] := rfl
    have htext := (h table List.mem_cons_self).readLines_text hend
    simpa [documentText] using htext
  | table :: next :: more, h => by
    obtain ⟨htable, hmore⟩ := List.forall_mem_cons.mp h
    have hrest := readLines_mono (Nat.le_succ _) (readLines_documentText hmore)
    rw [← readLines_break] at hrest
    have htext := htable.readLines_text hrest
    simpa [documentText, List.append_assoc] using htext

/-! ### Building tables -/

section Building

variable {root es : Entries} {name key : String}

theorem find?_eq_none (h : key ∉ es.map (·.1)) : find? key es = none := by
  rw [find?, find?_name_eq_none h]
  rfl

theorem find?_append_self (h : name ∉ root.map (·.1)) (item : Item) :
    find? name (root ++ [(name, item)]) = some item := by
  rw [find?, List.find?_append, find?_name_eq_none h]
  simp

theorem replace_append_self (h : name ∉ root.map (·.1)) (old item : Item) :
    replace name item (root ++ [(name, old)]) = root ++ [(name, item)] := by
  have hroot : root.map (fun e => if e.1 == name then (name, item) else e) = root := by
    refine (List.map_congr_left fun e he => ?_).trans (List.map_id root)
    exact if_neg fun heq => h (List.mem_map.mpr ⟨e, he, beq_iff_eq.mp heq⟩)
  rw [replace, List.map_append, hroot]
  simp

/-- A new key goes into the table that is open. -/
theorem add_pair (hname : name ∉ root.map (·.1)) (hkey : key ∉ es.map (·.1)) (v : Value) :
    Draft.add ⟨root ++ [(name, .table .header es)], [name]⟩ (.pair [key] v) =
      some ⟨root ++ [(name, .table .header (es ++ [(key, .value v)]))], [name]⟩ := by
  simp only [Draft.add, changeTable, find?_append_self hname, putDotted, find?_eq_none hkey,
    Option.map_some, replace_append_self hname]

theorem add_header (hname : name ∉ root.map (·.1)) (current : List String) :
    Draft.add ⟨root, current⟩ (.header [name]) =
      some ⟨root ++ [(name, .table .header [])], [name]⟩ := by
  have hopen : openTable name root = some (root ++ [(name, .table .header [])]) := by
    rw [openTable, find?_eq_none hname]
  simp only [Draft.add, List.getLast?_singleton, List.dropLast_singleton, changeTable, hopen,
    Option.bind_eq_bind, Option.bind_some]
  rfl

theorem foldlM_add_pairs (hname : name ∉ root.map (·.1)) : ∀ {pairs : List (String × String)}
    {es : Entries}, (es.map (·.1) ++ pairs.map (·.1)).Nodup →
      (pairs.map fun e => Line.pair [e.1] (.text e.2)).foldlM Draft.add
          ⟨root ++ [(name, .table .header es)], [name]⟩ =
        some ⟨root ++ [(name, .table .header (es ++ pairs.map fun e => (e.1, .value (.text e.2))))],
          [name]⟩ := by
  intro pairs
  induction pairs with
  | nil =>
    intro es _
    simp
  | cons e pairs ih =>
    intro es h
    have hkey : e.1 ∉ es.map (·.1) := fun hmem =>
      List.disjoint_of_nodup_append h hmem List.mem_cons_self
    rw [List.map_cons, List.foldlM_cons, add_pair hname hkey, Option.bind_eq_bind,
      Option.bind_some, ih (by simpa using h)]
    simp

end Building

/-- The table as it stands when all its lines are read. -/
def TextTable.item (table : TextTable) : String × Item :=
  (table.name, .table .header (table.pairs.map fun e => (e.1, .value (.text e.2))))

theorem foldlM_add_lines : ∀ {tables : List TextTable} (root : Entries) (current : List String),
    (∀ table ∈ tables, table.Plain) → (root.map (·.1) ++ tables.map (·.name)).Nodup →
      ∃ last, (tables.flatMap TextTable.lines).foldlM Draft.add ⟨root, current⟩ =
        some ⟨root ++ tables.map TextTable.item, last⟩ := by
  intro tables
  induction tables with
  | nil =>
    intro root current _ _
    exact ⟨current, by simp⟩
  | cons table tables ih =>
    intro root current hplain h
    obtain ⟨htable, hplain⟩ := List.forall_mem_cons.mp hplain
    have hname : table.name ∉ root.map (·.1) := fun hmem =>
      List.disjoint_of_nodup_append h hmem List.mem_cons_self
    have hnext : ((root ++ [table.item]).map (·.1) ++ tables.map (·.name)).Nodup := by
      simpa [TextTable.item] using h
    obtain ⟨last, hlast⟩ := ih (root ++ [table.item]) [table.name] hplain hnext
    refine ⟨last, ?_⟩
    rw [List.flatMap_cons, List.foldlM_append, TextTable.lines, List.foldlM_cons,
      add_header hname, Option.bind_eq_bind, Option.bind_some,
      foldlM_add_pairs hname (by simpa using htable.nodup), Option.bind_some]
    simpa [TextTable.item] using hlast

theorem finishEntries_map {α : Type} (f : α → String × Item) (as : List α) :
    finishEntries (as.map f) = as.map fun a => ((f a).1, (f a).2.finish) := by
  induction as with
  | nil => rfl
  | cons a as ih => rw [List.map_cons, finishEntries, ih, List.map_cons]

theorem TextTable.finish_item (table : TextTable) : table.item.2.finish = table.value := by
  rw [TextTable.item, Item.finish, finishEntries_map, TextTable.value]
  rfl

/-- The lines of tables with different names build the tables. -/
theorem build_lines {tables : List TextTable} (hplain : ∀ table ∈ tables, table.Plain)
    (hnames : (tables.map (·.name)).Nodup) :
    build (tables.flatMap TextTable.lines) = some (tables.map fun t => (t.name, t.value)) := by
  obtain ⟨last, hlast⟩ := foldlM_add_lines [] [] hplain (by simpa using hnames)
  rw [build, hlast, Option.bind_eq_bind, Option.bind_some, List.nil_append, finishEntries_map]
  simp only [TextTable.finish_item]
  rfl

theorem skipMark_documentText : ∀ tables : List TextTable,
    skipMark (documentText tables).toList = (documentText tables).toList
  | [] => rfl
  | [table] => by
    simp [documentText, TextTable.text, skipMark]
  | table :: next :: more => by
    simp [documentText, TextTable.text, skipMark]

/-- A document of tables is read as its tables. -/
theorem parse?_documentText {tables : List TextTable} (hplain : ∀ table ∈ tables, table.Plain)
    (hnames : (tables.map (·.name)).Nodup) :
    parse? (documentText tables) = some (tables.map fun t => (t.name, t.value)) := by
  simp only [parse?, skipMark_documentText, readLines_documentText hplain, Option.bind_some,
    build_lines hplain hnames]

end TreeSmith.Toml
