import Mathlib.Data.List.Basic
import Mathlib.Data.List.Induction
import TreeSmith.Text.Utf8

/-!
# Texts and their bytes

A text is stored as the bytes of its characters, one after another.  Reading them back
gives the text, also where bytes that are no text would be replaced, and comparing texts
from left to right is comparing their bytes.

## Main results

* `hexBytes?_flatMap_hexOfByte` — bytes are read back from their hexadecimal digits.
* `toList_toUTF8` — the bytes of a text are those of its characters.
* `eq_append_of_bytesOf_eq` — an ASCII ending of a text shows in its bytes.
* `lossy_bytesOf`, `lossyText_toUTF8` — **a text is read back from its bytes.**
* `bytesOf_lt_iff`, `toUTF8_lt_iff` — **texts are in the order of their bytes.**
-/

namespace TreeSmith.Text

/-! ### Hexadecimal digits -/

theorem hexValue?_digitChar : ∀ d < 16, hexValue? (Nat.digitChar d) = some d := by
  decide

/-- Bytes are read back from their hexadecimal digits. -/
theorem hexBytes?_flatMap_hexOfByte (bytes : List UInt8) :
    hexBytes? (bytes.flatMap hexOfByte) = some bytes := by
  induction bytes with
  | nil => rfl
  | cons b bytes ih =>
    have hb : b.toNat < 256 := b.toNat_lt
    have hsplit : 16 * (b.toNat / 16) + b.toNat % 16 = b.toNat := Nat.div_add_mod _ _
    simp only [List.flatMap_cons, hexOfByte, List.cons_append, List.nil_append, hexBytes?]
    rw [hexValue?_digitChar _ (by omega), hexValue?_digitChar _ (by omega), ih]
    simp only [Option.bind_eq_bind, Option.bind_some, hsplit, UInt8.ofNat_toNat]
    rfl

/-! ### The bytes of a text -/

/-- Bytes are listed from the place that was reached. -/
theorem toList_loop (bytes : ByteArray) (i : Nat) (listed : List UInt8) :
    ByteArray.toList.loop bytes i listed = listed.reverse ++ bytes.data.toList.drop i := by
  induction hleft : bytes.size - i generalizing i listed with
  | zero =>
    have hi : bytes.data.toList.length ≤ i := by
      rw [Array.length_toList]
      exact Nat.le_of_sub_eq_zero hleft
    rw [ByteArray.toList.loop, if_neg (by omega), List.drop_eq_nil_of_le hi, List.append_nil]
  | succ left ih =>
    have hi : i < bytes.data.toList.length := by
      rw [Array.length_toList]
      exact Nat.lt_of_sub_eq_succ hleft
    have hget : bytes.get! i = bytes.data.toList[i] := by
      rw [Array.getElem_toList]
      exact getElem!_pos bytes.data i _
    rw [ByteArray.toList.loop, if_pos (by omega), ih _ _ (by omega), hget,
      List.drop_eq_getElem_cons hi, List.reverse_cons, List.append_assoc, List.singleton_append]

theorem toList_toByteArray (bytes : List UInt8) : bytes.toByteArray.toList = bytes := by
  rw [ByteArray.toList, toList_loop, List.data_toByteArray]
  rfl

/-- The bytes of a text are those of its characters. -/
theorem toList_toUTF8 (s : String) : s.toUTF8.toList = bytesOf s := by
  rw [String.toUTF8, ← String.utf8Encode_toList, List.utf8Encode, toList_toByteArray]
  rfl

theorem bytesOf_append (s t : String) : bytesOf (s ++ t) = bytesOf s ++ bytesOf t := by
  rw [bytesOf, String.toList_append, List.flatMap_append]
  rfl

theorem toNat_ofNat_byte {n : Nat} (hn : n < 256) : (UInt8.ofNat n).toNat = n :=
  UInt8.toNat_ofNat_of_lt' hn

/-- A byte of an ASCII character stands only where the character does. -/
theorem mem_utf8EncodeChar {b : UInt8} (hb : b.toNat < 0x80) {c : Char}
    (h : b ∈ String.utf8EncodeChar c) : c.val.toNat = b.toNat := by
  unfold String.utf8EncodeChar at h
  generalize c.val.toNat = n at h ⊢
  simp only at h
  split_ifs at h
  all_goals simp only [List.mem_cons, List.not_mem_nil, or_false] at h
  · rw [h, toNat_ofNat_byte (by omega)]
  -- every other byte is high
  · rcases h with rfl | rfl
    all_goals rw [toNat_ofNat_byte (by omega)] at hb; omega
  · rcases h with rfl | rfl | rfl
    all_goals rw [toNat_ofNat_byte (by omega)] at hb; omega
  · rcases h with rfl | rfl | rfl | rfl
    all_goals rw [toNat_ofNat_byte (by omega)] at hb; omega

theorem notMem_bytesOf {b : UInt8} (hb : b.toNat < 0x80) {s : String}
    (hs : Char.ofNat b.toNat ∉ s.toList) : b ∉ bytesOf s := by
  intro hmem
  obtain ⟨c, hc, hbyte⟩ := List.mem_flatMap.mp hmem
  have hval := mem_utf8EncodeChar hb hbyte
  apply hs
  rw [← hval]
  exact (Char.ofNat_toNat c).symm ▸ hc

theorem utf8EncodeChar_of_lt {c : Char} (hc : c.val.toNat < 0x80) :
    String.utf8EncodeChar c = [UInt8.ofNat c.val.toNat] := by
  unfold String.utf8EncodeChar
  exact if_pos (Nat.le_of_lt_succ hc)

/-- Characters whose last bytes are those of ASCII characters end in these characters. -/
theorem flatMap_encode_eq_append {cs ds : List Char} {bytes : List UInt8}
    (hascii : ∀ d ∈ ds, d.val.toNat < 0x80)
    (h : cs.flatMap String.utf8EncodeChar = bytes ++ ds.flatMap String.utf8EncodeChar) :
    ∃ es, cs = es ++ ds ∧ es.flatMap String.utf8EncodeChar = bytes := by
  induction ds using List.reverseRecOn generalizing cs with
  | nil => exact ⟨cs, (List.append_nil _).symm, h.trans (List.append_nil _)⟩
  | append_singleton ds d ih =>
    have hd : d.val.toNat < 0x80 := hascii d (by simp)
    rw [List.flatMap_append, List.flatMap_singleton, utf8EncodeChar_of_lt hd,
      ← List.append_assoc] at h
    -- the last byte is one of the last character, so the last characters agree
    rcases List.eq_nil_or_concat' cs with rfl | ⟨front, c, rfl⟩
    · simp at h
    · rw [List.flatMap_append, List.flatMap_singleton] at h
      obtain ⟨bs, b, hb⟩ := (List.eq_nil_or_concat' (String.utf8EncodeChar c)).resolve_left
        String.utf8EncodeChar_ne_nil
      have hlast : b = UInt8.ofNat d.val.toNat := by
        rw [hb, ← List.append_assoc] at h
        exact List.singleton_inj.mp (List.append_inj_right' h rfl)
      have hval : c.val.toNat = d.val.toNat := by
        have hlow : b.toNat = d.val.toNat := by rw [hlast, toNat_ofNat_byte (by omega)]
        rw [← hlow]
        exact mem_utf8EncodeChar (by omega) (by simp [hb])
      obtain rfl : c = d := Char.ext (UInt32.toNat_inj.mp hval)
      rw [utf8EncodeChar_of_lt hd] at h
      obtain ⟨es, rfl, hes⟩ := ih (fun e he => hascii e (by simp [he])) (List.append_cancel_right h)
      exact ⟨es, List.append_assoc _ _ _, hes⟩

/-- A text whose last bytes are those of an ASCII text ends in that text. -/
theorem eq_append_of_bytesOf_eq {s ending : String} {bytes : List UInt8}
    (hascii : ending.toList.all (·.val.toNat < 0x80) = true)
    (h : bytesOf s = bytes ++ bytesOf ending) :
    ∃ stem, s = stem ++ ending ∧ bytesOf stem = bytes := by
  have hlow : ∀ d ∈ ending.toList, d.val.toNat < 0x80 := fun d hd =>
    of_decide_eq_true (List.all_eq_true.mp hascii d hd)
  obtain ⟨es, hes, hbytes⟩ := flatMap_encode_eq_append hlow h
  refine ⟨String.ofList es, ?_, by rw [bytesOf, String.toList_ofList, hbytes]⟩
  rw [← String.toList_inj, hes, String.toList_append, String.toList_ofList]

/-! ### Reading characters back -/

theorem lossyChars_single {b : Nat} (hb : b < 0x80) (rest : List UInt8) :
    lossyChars none (UInt8.ofNat b :: rest) = Char.ofNat b :: lossyChars none rest := by
  rw [lossyChars, toNat_ofNat_byte (by omega), startChar, if_pos hb]
  rfl

/-- A byte that leads a longer character opens it with its low bits. -/
theorem lossyChars_lead {b missing least greatest k : Nat} (hb : b < 256)
    (hlead : leadingByte b = some (missing, least, greatest))
    (hsize : (if missing = 1 then 0x1F else if missing = 2 then 0x0F else 0x07) + 1 = k)
    (rest : List UInt8) :
    lossyChars none (UInt8.ofNat b :: rest) =
      lossyChars (some ⟨b % k, missing, least, greatest⟩) rest := by
  -- a byte that leads is not a character of its own
  have hhigh : ¬ b < 0x80 := by
    intro hlow
    have hnone : leadingByte b = none := by
      unfold leadingByte
      simp only [Bool.and_eq_true, decide_eq_true_eq]
      repeat rw [if_neg (by omega)]
    rw [hnone] at hlead
    cases hlead
  rw [lossyChars, toNat_ofNat_byte hb, startChar, if_neg hhigh, hlead, ← hsize]
  rfl

/-- A byte in its range adds six bits to an open character. -/
theorem lossyChars_next {bits missing least greatest b : Nat} (hb : b < 256) (hleast : least ≤ b)
    (hgreatest : b ≤ greatest) (rest : List UInt8) :
    lossyChars (some ⟨bits, missing + 2, least, greatest⟩) (UInt8.ofNat b :: rest) =
      lossyChars (some ⟨bits * 64 + b % 64, missing + 1, 0x80, 0xBF⟩) rest := by
  rw [lossyChars, toNat_ofNat_byte hb]
  simp [hleast, hgreatest]

/-- The last byte of a character closes it. -/
theorem lossyChars_last {bits least greatest b : Nat} (hb : b < 256) (hleast : least ≤ b)
    (hgreatest : b ≤ greatest) (rest : List UInt8) :
    lossyChars (some ⟨bits, 1, least, greatest⟩) (UInt8.ofNat b :: rest) =
      Char.ofNat (bits * 64 + b % 64) :: lossyChars none rest := by
  rw [lossyChars, toNat_ofNat_byte hb]
  simp [hleast, hgreatest]

theorem leadingByte_two {n : Nat} (hlow : 0x80 ≤ n) (hhigh : n < 0x800) :
    leadingByte (n / 64 % 32 + 192) = some (1, 0x80, 0xBF) := by
  unfold leadingByte
  rw [if_pos]
  simp only [Bool.and_eq_true, decide_eq_true_eq]
  omega

/-- The second of three bytes is in the range that the first one asks for: it neither
spells a code point that two bytes are enough for, nor half of a surrogate pair. -/
theorem leadingByte_three {n : Nat} (hlow : 0x800 ≤ n) (hhigh : n < 0x10000)
    (hchar : n < 0xD800 ∨ 0xDFFF < n) :
    ∃ least greatest, leadingByte (n / 4096 % 16 + 224) = some (2, least, greatest) ∧
      least ≤ n / 64 % 64 + 128 ∧ n / 64 % 64 + 128 ≤ greatest := by
  unfold leadingByte
  simp only [Bool.and_eq_true, decide_eq_true_eq]
  rw [if_neg (by omega)]
  split_ifs
  · exact ⟨_, _, rfl, by omega, by omega⟩
  · exact ⟨_, _, rfl, by omega, by omega⟩
  · exact ⟨_, _, rfl, by omega, by omega⟩
  all_goals omega

/-- The second of four bytes is in the range that the first one asks for: it neither
spells a code point that three bytes are enough for, nor one past the last. -/
theorem leadingByte_four {n : Nat} (hlow : 0x10000 ≤ n) (hhigh : n < 0x110000) :
    ∃ least greatest, leadingByte (n / 262144 % 8 + 240) = some (3, least, greatest) ∧
      least ≤ n / 4096 % 64 + 128 ∧ n / 4096 % 64 + 128 ≤ greatest := by
  unfold leadingByte
  simp only [Bool.and_eq_true, decide_eq_true_eq]
  repeat rw [if_neg (show ¬ (0xC2 ≤ _ ∧ _) by omega)]
  split_ifs
  · omega
  · omega
  · omega
  · exact ⟨_, _, rfl, by omega, by omega⟩
  · exact ⟨_, _, rfl, by omega, by omega⟩
  · exact ⟨_, _, rfl, by omega, by omega⟩
  · omega

/-- A character is read back from its bytes, whatever follows them. -/
theorem lossyChars_encode (c : Char) (rest : List UInt8) :
    lossyChars none (String.utf8EncodeChar c ++ rest) = c :: lossyChars none rest := by
  have hchar : c.val.toNat < 0xD800 ∨ 0xDFFF < c.val.toNat ∧ c.val.toNat < 0x110000 := c.valid
  have hc : Char.ofNat c.val.toNat = c := Char.ofNat_toNat c
  unfold String.utf8EncodeChar
  -- from here on only the code point matters; the cases are one to four bytes
  generalize c.val.toNat = n at hchar hc ⊢
  simp only
  split_ifs with hone htwo hthree
  · rw [List.singleton_append, lossyChars_single (by omega), hc]
  · have hlead := leadingByte_two (n := n) (by omega) (by omega)
    have hbits : (n / 64 % 32 + 192) % 32 * 64 + (n % 64 + 128) % 64 = n := by omega
    simp only [List.cons_append, List.nil_append]
    rw [lossyChars_lead (k := 32) (by omega) hlead rfl, lossyChars_last (by omega) (by omega) (by omega),
      hbits, hc]
  · obtain ⟨least, greatest, hlead, hleast, hgreatest⟩ :=
      leadingByte_three (n := n) (by omega) (by omega) (by omega)
    have hbits : ((n / 4096 % 16 + 224) % 16 * 64 + (n / 64 % 64 + 128) % 64) * 64 +
        (n % 64 + 128) % 64 = n := by omega
    simp only [List.cons_append, List.nil_append]
    rw [lossyChars_lead (k := 16) (by omega) hlead rfl, lossyChars_next (by omega) hleast hgreatest,
      lossyChars_last (by omega) (by omega) (by omega), hbits, hc]
  · obtain ⟨least, greatest, hlead, hleast, hgreatest⟩ :=
      leadingByte_four (n := n) (by omega) (by omega)
    have hbits : (((n / 262144 % 8 + 240) % 8 * 64 + (n / 4096 % 64 + 128) % 64) * 64 +
        (n / 64 % 64 + 128) % 64) * 64 + (n % 64 + 128) % 64 = n := by omega
    simp only [List.cons_append, List.nil_append]
    rw [lossyChars_lead (k := 8) (by omega) hlead rfl, lossyChars_next (by omega) hleast hgreatest,
      lossyChars_next (by omega) (by omega) (by omega),
      lossyChars_last (by omega) (by omega) (by omega), hbits, hc]

/-- A text is read back from its bytes. -/
theorem lossy_bytesOf (s : String) : lossy (bytesOf s) = s := by
  have hchars : ∀ cs : List Char, lossyChars none (cs.flatMap String.utf8EncodeChar) = cs := by
    intro cs
    induction cs with
    | nil => rfl
    | cons c cs ih => rw [List.flatMap_cons, lossyChars_encode, ih]
  rw [lossy, bytesOf, hchars, String.ofList_toList]

theorem lossyText_toUTF8 (s : String) : lossyText s.toUTF8 = s := by
  rw [lossyText, toList_toUTF8, lossy_bytesOf]

/-! ### The order of texts -/

/-- Rows of bytes are in order when their first bytes are, and where these agree the
rest of the rows is. -/
theorem byte_cons_lt {a b : Nat} (ha : a < 256) (hb : b < 256) (hle : a ≤ b) {as bs : List UInt8}
    (hrest : a = b → as < bs) : UInt8.ofNat a :: as < UInt8.ofNat b :: bs := by
  rw [List.cons_lt_cons_iff, UInt8.lt_iff_toNat_lt, toNat_ofNat_byte ha, toNat_ofNat_byte hb]
  rcases Nat.lt_or_eq_of_le hle with hlt | rfl
  · exact .inl hlt
  · exact .inr ⟨rfl, hrest rfl⟩

/-- The character with the smaller code point has the smaller bytes, whatever follows
them: more bytes start higher, and as many bytes differ first where the code points do. -/
theorem encode_lt {c d : Char} (h : c < d) (as bs : List UInt8) :
    String.utf8EncodeChar c ++ as < String.utf8EncodeChar d ++ bs := by
  have hcd : c.val.toNat < d.val.toNat := h
  have hd : d.val.toNat < 0xD800 ∨ 0xDFFF < d.val.toNat ∧ d.val.toNat < 0x110000 := d.valid
  unfold String.utf8EncodeChar
  generalize c.val.toNat = m at hcd ⊢
  generalize d.val.toNat = n at hcd hd ⊢
  simp only
  split_ifs
  all_goals simp only [List.cons_append, List.nil_append]
  all_goals refine byte_cons_lt (by omega) (by omega) (by omega) fun hfirst => ?_
  -- the first bytes agree only when there are equally many, and more than one
  all_goals try omega
  · exact byte_cons_lt (by omega) (by omega) (by omega) fun _ => by omega
  · refine byte_cons_lt (by omega) (by omega) (by omega) fun _ => ?_
    exact byte_cons_lt (by omega) (by omega) (by omega) fun _ => by omega
  · refine byte_cons_lt (by omega) (by omega) (by omega) fun _ => ?_
    refine byte_cons_lt (by omega) (by omega) (by omega) fun _ => ?_
    exact byte_cons_lt (by omega) (by omega) (by omega) fun _ => by omega

theorem flatMap_encode_lt {cs ds : List Char} (h : cs < ds) :
    cs.flatMap String.utf8EncodeChar < ds.flatMap String.utf8EncodeChar := by
  induction cs generalizing ds with
  | nil =>
    cases ds with
    | nil => exact absurd h (List.lt_irrefl _)
    | cons d ds =>
      obtain ⟨b, bytes, hbytes⟩ := List.exists_cons_of_ne_nil (String.utf8EncodeChar_ne_nil (c := d))
      rw [List.flatMap_nil, List.flatMap_cons, hbytes]
      exact List.nil_lt_cons _ _
  | cons c cs ih =>
    cases ds with
    | nil => exact absurd h (List.not_lt_nil _)
    | cons d ds =>
      rw [List.flatMap_cons, List.flatMap_cons]
      rcases List.cons_lt_cons_iff.mp h with hcd | ⟨rfl, hrest⟩
      · exact encode_lt hcd _ _
      · exact List.append_left_lt (ih hrest)

/-- Texts are in the order of their bytes. -/
theorem bytesOf_lt_iff {s t : String} : bytesOf s < bytesOf t ↔ s < t := by
  constructor
  · intro h
    by_contra hst
    -- otherwise the texts, and with them the bytes, are equal or the other way round
    by_cases hts : t < s
    · exact List.lt_irrefl _ (List.lt_trans h (flatMap_encode_lt hts))
    · have heq : s = t := String.le_antisymm (String.not_lt.mp hts) (String.not_lt.mp hst)
      rw [heq] at h
      exact List.lt_irrefl _ h
  · intro h
    exact flatMap_encode_lt h

theorem toUTF8_lt_iff {s t : String} : s.toUTF8.toList < t.toUTF8.toList ↔ s < t := by
  rw [toList_toUTF8, toList_toUTF8, bytesOf_lt_iff]

end TreeSmith.Text
