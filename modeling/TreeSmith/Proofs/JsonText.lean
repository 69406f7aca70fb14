import TreeSmith.Json.Reader
import TreeSmith.Proofs.Encoding
import TreeSmith.Proofs.Fallible

/-!
# JSON text is read back

What the reader makes of a value's text is the value again, for values of texts, truth
values, lists and objects.  The text of a value says by its first character which kind of
value it is, and where it ends; so nothing is asked of what follows it.  The reader
spends at most two units of fuel for each character.

## Main definitions

* `Json.Plain` — values without numbers and without keys or strings that have no text.
* `Json.ReadsBack` — the reader takes the text of a value off any input.

## Main results

* `readString_quote` — strings are read back, with their escapes.
* `Plain.readsBack` — values are read back in front of anything.
* `parse?_render` — **the text of a value is read as the value.**
-/

namespace TreeSmith.Json

/-! ### Strings -/

theorem joinParts?_map_char (cs : List Char) : joinParts? (cs.map .char) = some cs := by
  induction cs with
  | nil => rfl
  | cons c cs ih => rw [List.map_cons, joinParts?, ih, Option.map_some]

/-- The digits of a control character stand for it. -/
theorem partOfHex?_control {c : Char} (hc : c.toNat < 0x20) :
    partOfHex? (Nat.digitChar (c.toNat / 4096 % 16)) (Nat.digitChar (c.toNat / 256 % 16))
      (Nat.digitChar (c.toNat / 16 % 16)) (Nat.digitChar (c.toNat % 16)) = some (.char c) := by
  have hvalue : 4096 * (c.toNat / 4096 % 16) + 256 * (c.toNat / 256 % 16) +
      16 * (c.toNat / 16 % 16) + c.toNat % 16 = c.toNat := by omega
  have hhalf : (decide (0xD800 ≤ c.toNat) && decide (c.toNat ≤ 0xDFFF)) = false := by
    simp only [Bool.and_eq_false_iff, decide_eq_false_iff_not]
    omega
  rw [partOfHex?, Text.hexValue?_digitChar _ (by omega), Text.hexValue?_digitChar _ (by omega),
    Text.hexValue?_digitChar _ (by omega), Text.hexValue?_digitChar _ (by omega)]
  simp only [Option.bind_eq_bind, Option.bind_some, hvalue, hhalf, Char.ofNat_toNat]
  rfl

/-- A character is read back from the way it is written inside a string. -/
theorem readParts_escapeChar (c : Char) {parts : List StringPart} {cs rest : List Char}
    (h : readParts cs = some (parts, rest)) :
    readParts (escapeChar c ++ cs) = some (.char c :: parts, rest) := by
  unfold escapeChar
  split_ifs with hquote hslash hcontrol
  · subst hquote
    simp [readParts, escaped?, h]
  · subst hslash
    simp [readParts, escaped?, h]
  · rw [hex4]
    simp only [List.cons_append, List.nil_append]
    rw [readParts, partOfHex?_control hcontrol, h]
    rfl
  · rw [List.singleton_append, readParts.eq_def]
    -- the reader looks for quotes and escapes first, and the character is neither
    split
    · next heq => cases heq
    · next heq => cases heq; exact absurd rfl hquote
    · next heq => cases heq; exact absurd rfl hslash
    · next heq => cases heq; exact absurd rfl hslash
    · next heq =>
      cases heq
      rw [if_neg hcontrol, h]
      rfl

/-- A string is read back from what stands between its quotes. -/
theorem readString_quote (s : String) (rest : List Char) :
    readString (s.toList.flatMap escapeChar ++ '"' :: rest) = some (some s, rest) := by
  have hparts : ∀ cs : List Char,
      readParts (cs.flatMap escapeChar ++ '"' :: rest) = some (cs.map .char, rest) := by
    intro cs
    induction cs with
    | nil => rw [List.flatMap_nil, List.nil_append, readParts, List.map_nil]
    | cons c cs ih =>
      rw [List.flatMap_cons, List.append_assoc, readParts_escapeChar c ih, List.map_cons]
  rw [readString, hparts]
  simp only [Option.bind_eq_bind, Option.bind_some, joinParts?_map_char, Option.map_some,
    String.ofList_toList]
  rfl

theorem toList_quote (s : String) : (quote s).toList = '"' :: s.toList.flatMap escapeChar ++ ['"'] :=
  String.toList_ofList

/-! ### Values -/

/-- A value of texts, truth values, lists and objects, whose keys all have a text. -/
inductive Plain : Json → Prop
  /-- The null value. -/
  | null : Plain .null
  /-- A truth value. -/
  | bool (b : Bool) : Plain (.bool b)
  /-- A string with its text. -/
  | string (s : String) : Plain (.string s)
  /-- A list of such values. -/
  | array {items : List Json} (h : ∀ j ∈ items, Plain j) : Plain (.array items)
  /-- An object of such values. -/
  | object {members : List (Option String × Json)} (hkeys : ∀ m ∈ members, m.1.isSome = true)
      (h : ∀ m ∈ members, Plain m.2) : Plain (.object members)

/-- The reader takes the text of the value off any input, with fuel for its length. -/
def ReadsBack (j : Json) : Prop :=
  ∀ (fuel : Nat) (rest : List Char), 2 * (render j).toList.length ≤ fuel →
    readValue fuel ((render j).toList ++ rest) = some (j, rest)

theorem toList_render_array (items : List Json) :
    (render (.array items)).toList = '[' :: ((renderItems items).toList ++ [']']) := by
  rw [render, String.append_assoc, String.toList_append, String.toList_append]
  rfl

theorem toList_render_object (members : List (Option String × Json)) :
    (render (.object members)).toList = '{' :: ((renderMembers members).toList ++ ['}']) := by
  rw [render, String.append_assoc, String.toList_append, String.toList_append]
  rfl

theorem toList_renderItems_cons_cons (j k : Json) (more : List Json) :
    (renderItems (j :: k :: more)).toList =
      (render j).toList ++ ',' :: (renderItems (k :: more)).toList := by
  rw [renderItems, String.toList_append, String.toList_append, List.append_assoc]
  · rfl
  · nofun

theorem toList_renderMembers_singleton (key : String) (j : Json) :
    (renderMembers [(some key, j)]).toList = (quote key).toList ++ ':' :: (render j).toList := by
  rw [renderMembers, String.toList_append, String.toList_append, List.append_assoc]
  rfl

theorem toList_renderMembers_cons_cons (key : String) (j : Json) (m : Option String × Json)
    (more : List (Option String × Json)) :
    (renderMembers ((some key, j) :: m :: more)).toList = (quote key).toList ++
      ':' :: ((render j).toList ++ ',' :: (renderMembers (m :: more)).toList) := by
  rw [renderMembers, String.toList_append, String.toList_append, String.toList_append,
    String.toList_append, List.append_assoc, List.append_assoc, List.append_assoc]
  · rfl
  · nofun

/-- The first character of a value's text is no blank and closes nothing. -/
theorem Plain.exists_cons {j : Json} (hj : j.Plain) : ∃ c cs, (render j).toList = c :: cs ∧
    isSpace c = false ∧ c ≠ ']' := by
  cases hj with
  | null => exact ⟨'n', "ull".toList, by rw [render]; rfl, by decide⟩
  | bool b =>
    cases b with
    | true => exact ⟨'t', "rue".toList, by rw [render]; rfl, by decide⟩
    | false => exact ⟨'f', "alse".toList, by rw [render]; rfl, by decide⟩
  | string s => exact ⟨'"', _, by rw [render, toList_quote]; rfl, by decide⟩
  | array h => exact ⟨'[', _, toList_render_array _, by decide⟩
  | object hkeys h => exact ⟨'{', _, toList_render_object _, by decide⟩

theorem skipSpace_cons {c : Char} (hc : isSpace c = false) (cs : List Char) :
    skipSpace (c :: cs) = c :: cs := by
  rw [skipSpace, List.dropWhile_cons_of_neg (by simp [hc])]

theorem Plain.skipSpace_render {j : Json} (hj : j.Plain) (rest : List Char) :
    skipSpace ((render j).toList ++ rest) = (render j).toList ++ rest := by
  obtain ⟨c, cs, hrender, hspace, -⟩ := hj.exists_cons
  rw [hrender, List.cons_append, skipSpace_cons hspace]

section Items

-- The last item or member stands before the closing mark, any other one before a comma.

variable {j : Json} (hplain : j.Plain) (hread : j.ReadsBack) {fuel : Nat}
  (hfuel : 2 * (render j).toList.length ≤ fuel)

include hplain hread hfuel

theorem readItems_last (rest : List Char) :
    readItems (fuel + 1) ((render j).toList ++ ']' :: rest) = some ([j], rest) := by
  rw [readItems, hplain.skipSpace_render, hread fuel _ hfuel]
  simp only [Option.bind_eq_bind, Option.bind_some]
  rw [skipSpace_cons (by decide)]
  rfl

theorem readItems_more {more rest : List Char} {js : List Json}
    (hmore : readItems fuel more = some (js, rest)) :
    readItems (fuel + 1) ((render j).toList ++ ',' :: more) = some (j :: js, rest) := by
  rw [readItems, hplain.skipSpace_render, hread fuel _ hfuel]
  simp only [Option.bind_eq_bind, Option.bind_some]
  rw [skipSpace_cons (by decide)]
  simp only [hmore, Option.bind_some]
  rfl

theorem readMembers_last (key : String) (rest : List Char) :
    readMembers (fuel + 1) ((quote key).toList ++ ':' :: ((render j).toList ++ '}' :: rest)) =
      some ([(some key, j)], rest) := by
  rw [toList_quote, List.cons_append, List.cons_append, List.append_assoc, List.singleton_append,
    readMembers, skipSpace_cons (by decide)]
  simp only [readString_quote, Option.bind_eq_bind, Option.bind_some]
  rw [skipSpace_cons (by decide)]
  simp only [hplain.skipSpace_render, hread fuel _ hfuel, Option.bind_some]
  rw [skipSpace_cons (by decide)]
  rfl

theorem readMembers_more (key : String) {more rest : List Char}
    {ms : List (Option String × Json)} (hmore : readMembers fuel more = some (ms, rest)) :
    readMembers (fuel + 1) ((quote key).toList ++ ':' :: ((render j).toList ++ ',' :: more)) =
      some ((some key, j) :: ms, rest) := by
  rw [toList_quote, List.cons_append, List.cons_append, List.append_assoc, List.singleton_append,
    readMembers, skipSpace_cons (by decide)]
  simp only [readString_quote, Option.bind_eq_bind, Option.bind_some]
  rw [skipSpace_cons (by decide)]
  simp only [hplain.skipSpace_render, hread fuel _ hfuel, Option.bind_some]
  rw [skipSpace_cons (by decide)]
  simp only [hmore, Option.bind_some]
  rfl

end Items

/-- The items of a list are read up to its closing bracket. -/
theorem readItems_render {items : List Json} (hplain : ∀ j ∈ items, j.Plain)
    (hread : ∀ j ∈ items, j.ReadsBack) (hne : items ≠ []) {fuel : Nat}
    (hfuel : 2 * (renderItems items).toList.length < fuel) (rest : List Char) :
    readItems fuel ((renderItems items).toList ++ ']' :: rest) = some (items, rest) := by
  induction items generalizing fuel with
  | nil => exact absurd rfl hne
  | cons j more ih =>
    -- one unit is spent here, and the comma pays for the one of the next item
    obtain ⟨fuel, rfl⟩ : ∃ n, fuel = n + 1 := ⟨fuel - 1, by omega⟩
    have hj := hplain j List.mem_cons_self
    have hreadj := hread j List.mem_cons_self
    cases more with
    | nil =>
      rw [renderItems] at hfuel ⊢
      exact readItems_last hj hreadj (by omega) rest
    | cons k more =>
      rw [toList_renderItems_cons_cons] at hfuel ⊢
      rw [List.length_append, List.length_cons] at hfuel
      rw [List.append_assoc, List.cons_append]
      apply readItems_more hj hreadj (by omega)
      exact ih (fun i hi => hplain i (List.mem_cons_of_mem _ hi))
        (fun i hi => hread i (List.mem_cons_of_mem _ hi)) (by simp) (by omega)

/-- The members of an object are read up to its closing brace. -/
theorem readMembers_render {members : List (Option String × Json)}
    (hkeys : ∀ m ∈ members, m.1.isSome = true) (hplain : ∀ m ∈ members, m.2.Plain)
    (hread : ∀ m ∈ members, m.2.ReadsBack) (hne : members ≠ []) {fuel : Nat}
    (hfuel : 2 * (renderMembers members).toList.length < fuel) (rest : List Char) :
    readMembers fuel ((renderMembers members).toList ++ '}' :: rest) = some (members, rest) := by
  induction members generalizing fuel with
  | nil => exact absurd rfl hne
  | cons m more ih =>
    obtain ⟨fuel, rfl⟩ : ∃ n, fuel = n + 1 := ⟨fuel - 1, by omega⟩
    obtain ⟨_ | key, j⟩ := m
    · cases hkeys _ List.mem_cons_self
    have hj : j.Plain := hplain (some key, j) List.mem_cons_self
    have hreadj : j.ReadsBack := hread (some key, j) List.mem_cons_self
    cases more with
    | nil =>
      rw [toList_renderMembers_singleton] at hfuel ⊢
      rw [List.length_append, List.length_cons] at hfuel
      rw [List.append_assoc, List.cons_append]
      exact readMembers_last hj hreadj (by omega) key rest
    | cons l more =>
      rw [toList_renderMembers_cons_cons] at hfuel ⊢
      rw [List.length_append, List.length_cons, List.length_append, List.length_cons] at hfuel
      rw [List.append_assoc, List.cons_append, List.append_assoc, List.cons_append]
      apply readMembers_more hj hreadj (by omega)
      exact ih (fun i hi => hkeys i (List.mem_cons_of_mem _ hi))
        (fun i hi => hplain i (List.mem_cons_of_mem _ hi))
        (fun i hi => hread i (List.mem_cons_of_mem _ hi)) (by simp) (by omega)

/-- A list that does not close at once has items. -/
theorem readValue_array {c : Char} (hspace : isSpace c = false) (hc : c ≠ ']') {cs rest : List Char}
    {fuel : Nat} {items : List Json} (h : readItems fuel (c :: cs) = some (items, rest)) :
    readValue (fuel + 1) ('[' :: c :: cs) = some (.array items, rest) := by
  rw [readValue, skipSpace_cons hspace]
  split
  · next heq => cases heq; exact absurd rfl hc
  · rw [h]; rfl

/-- An object that does not close at once has members. -/
theorem readValue_object {c : Char} (hspace : isSpace c = false) (hc : c ≠ '}')
    {cs rest : List Char} {fuel : Nat} {members : List (Option String × Json)}
    (h : readMembers fuel (c :: cs) = some (members, rest)) :
    readValue (fuel + 1) ('{' :: c :: cs) = some (.object members, rest) := by
  rw [readValue, skipSpace_cons hspace]
  split
  · next heq => cases heq; exact absurd rfl hc
  · rw [h]; rfl

theorem Plain.exists_cons_renderItems {j : Json} (hj : j.Plain) (more : List Json) :
    ∃ c cs, (renderItems (j :: more)).toList = c :: cs ∧ isSpace c = false ∧ c ≠ ']' := by
  obtain ⟨c, cs, hcs, hspace, hc⟩ := hj.exists_cons
  cases more with
  | nil => exact ⟨c, cs, by rw [renderItems, hcs], hspace, hc⟩
  | cons k more => exact ⟨c, _, by rw [toList_renderItems_cons_cons, hcs, List.cons_append], hspace, hc⟩

theorem exists_cons_renderMembers (key : String) (j : Json) (more : List (Option String × Json)) :
    ∃ cs, (renderMembers ((some key, j) :: more)).toList = '"' :: cs := by
  cases more with
  | nil =>
    rw [toList_renderMembers_singleton, toList_quote, List.cons_append]
    exact ⟨_, rfl⟩
  | cons m more =>
    rw [toList_renderMembers_cons_cons, toList_quote, List.cons_append]
    exact ⟨_, rfl⟩

/-- A value is read back if it is after the step that its first character pays for. -/
theorem readsBack_of_cons {j : Json} {c : Char} {cs : List Char}
    (htext : (render j).toList = c :: cs)
    (h : ∀ fuel rest, 2 * cs.length < fuel →
      readValue (fuel + 1) (c :: (cs ++ rest)) = some (j, rest)) : j.ReadsBack := by
  intro fuel rest hfuel
  rw [htext, List.length_cons] at hfuel
  obtain ⟨left, rfl, hleft⟩ := exists_fuel (show 2 * cs.length + 1 < fuel by omega)
  rw [htext]
  exact h left rest hleft

/-- Values are read back in front of anything. -/
theorem Plain.readsBack {j : Json} (hj : j.Plain) : j.ReadsBack := by
  induction hj with
  | null =>
    have htext : (render .null).toList = ['n', 'u', 'l', 'l'] := by rw [render]; rfl
    exact readsBack_of_cons htext fun _ _ _ => rfl
  | bool b =>
    cases b with
    | true =>
      have htext : (render (.bool true)).toList = ['t', 'r', 'u', 'e'] := by rw [render]; rfl
      exact readsBack_of_cons htext fun _ _ _ => rfl
    | false =>
      have htext : (render (.bool false)).toList = ['f', 'a', 'l', 's', 'e'] := by rw [render]; rfl
      exact readsBack_of_cons htext fun _ _ _ => rfl
  | string s =>
    have htext : (render (.string s)).toList = '"' :: (s.toList.flatMap escapeChar ++ ['"']) := by
      rw [render, toList_quote, List.cons_append]
    refine readsBack_of_cons htext fun fuel rest _ => ?_
    rw [List.append_assoc, List.singleton_append, readValue, readString_quote]
    rfl
  | @array items h ih =>
    refine readsBack_of_cons (toList_render_array items) fun fuel rest hfuel => ?_
    rw [List.length_append] at hfuel
    rw [List.append_assoc, List.singleton_append]
    cases items with
    | nil => rw [renderItems]; rfl
    | cons k more =>
      -- the brackets pay for entering the items
      have hread := readItems_render h ih (by simp) (show _ < fuel by omega) rest
      obtain ⟨c, cs, hcs, hspace, hc⟩ := (h k List.mem_cons_self).exists_cons_renderItems more
      rw [hcs, List.cons_append] at hread ⊢
      exact readValue_array hspace hc hread
  | @object members hkeys h ih =>
    refine readsBack_of_cons (toList_render_object members) fun fuel rest hfuel => ?_
    rw [List.length_append] at hfuel
    rw [List.append_assoc, List.singleton_append]
    cases members with
    | nil => rw [renderMembers]; rfl
    | cons m more =>
      have hread := readMembers_render hkeys h ih (by simp) (show _ < fuel by omega) rest
      obtain ⟨_ | key, j⟩ := m
      · cases hkeys _ List.mem_cons_self
      obtain ⟨cs, hcs⟩ := exists_cons_renderMembers key j more
      rw [hcs, List.cons_append] at hread ⊢
      exact readValue_object (by decide) (by decide) hread

/-- The text of a value is read as the value. -/
theorem parse?_render {j : Json} (hj : j.Plain) : parse? (render j) = some j := by
  have hskip : skipSpace (render j).toList = (render j).toList := by
    have h := hj.skipSpace_render []
    rwa [List.append_nil] at h
  have hread := hj.readsBack (2 * (render j).toList.length + 2) [] (by omega)
  rw [List.append_nil] at hread
  rw [parse?, hskip, hread]
  rfl

end TreeSmith.Json
