import Mathlib.Data.List.Basic
import TreeSmith.Proofs.Fallible
import TreeSmith.Toml.Writer

/-!
# Strings in TOML are read back

A string is written in one of four ways, and each is undone by a reader of its own.  With
escapes, every character is read back from its code.  Between three quotes the reader looks
at a whole row of quotes at once: up to two of them are text, and up to two may stand before
the three that close.  So what is written must never have more than two in a row, which
escapes see to between double quotes and the choice of style between single ones.

## Main definitions

* `Toml.IsEscape` — the escape of a character.
* `Toml.RowFits` — a text that starts with few enough quotes.

## Main results

* `Toml.escaped_cons` — how one character is written between double quotes.
* `Toml.readBasic_escaped`, `Toml.readLongBasic_escaped` — double quotes.
* `Toml.readLiteral_append`, `Toml.readLongLiteral_append` — single quotes.
* `Toml.readText_valueChars` — **a string is read back in front of anything but a quote.**
-/

namespace TreeSmith.Toml

/-! ### Escapes -/

/-- The hexadecimal digits of an escape. -/
def codeDigits (c : Char) : List Char :=
  let digits := (Nat.toDigits 16 c.toNat).map Char.toUpper
  List.replicate (4 - digits.length) '0' ++ digits

theorem readHexChar_append {width : Nat} {ds : List Char} (h : ds.length = width)
    (rest : List Char) :
    readHexChar width (ds ++ rest) = (readHexChar width ds).map fun p => (p.1, p.2 ++ rest) := by
  subst h
  simp only [readHexChar, List.take_left, List.drop_left, List.take_length, List.drop_length]
  cases ds.foldlM (fun n c => (Text.hexValue? c.toLower).map fun d => n * 16 + d) 0 with
  | none => simp
  | some code => by_cases hcode : code.isValidChar <;> simp [hcode]

theorem readHexChar_codeDigits_ofNat : ∀ n < 0x80,
    (codeDigits (Char.ofNat n)).length = 4 ∧
      readHexChar 4 (codeDigits (Char.ofNat n)) = some (Char.ofNat n, []) := by
  decide +kernel

theorem toNat_lt_of_needsCode {c : Char} (h : needsCode c = true) : c.toNat < 0x80 := by
  simp only [needsCode, Bool.or_eq_true, Bool.and_eq_true, decide_eq_true_eq] at h
  omega

theorem readEscape_codeText {c : Char} (h : needsCode c = true) (rest : List Char) :
    readEscape ('u' :: codeDigits c ++ rest) = some (c, rest) := by
  obtain ⟨hlength, hread⟩ := readHexChar_codeDigits_ofNat c.toNat (toNat_lt_of_needsCode h)
  rw [Char.ofNat_toNat] at hlength hread
  rw [List.cons_append, readEscape, readHexChar_append hlength, hread]
  rfl

theorem afterHiddenBreak?_cons {c : Char} (hspace : isSpace c = false) (hbreak : c ≠ '\n')
    (hreturn : c ≠ '\r') (cs : List Char) : afterHiddenBreak? (c :: cs) = none := by
  rw [afterHiddenBreak?, List.dropWhile_cons_of_neg (by simp [hspace]), afterBreak?.eq_def]
  split
  · next heq => cases heq; exact absurd rfl hbreak
  · next heq => cases heq; exact absurd rfl hreturn
  · rfl

/-- After a backslash, the text is the escape of the character and hides no line break. -/
def IsEscape (c : Char) (body : List Char) : Prop :=
  ∀ rest, readEscape (body ++ rest) = some (c, rest) ∧ afterHiddenBreak? (body ++ rest) = none

theorem isEscape_singleton {c d : Char} (hd : d ∈ ['b', 't', 'n', 'f', 'r', '"', '\\'])
    (h : ∀ rest, readEscape (d :: rest) = some (c, rest)) : IsEscape c [d] := by
  have hletters : ∀ d ∈ ['b', 't', 'n', 'f', 'r', '"', '\\'],
      isSpace d = false ∧ d ≠ '\n' ∧ d ≠ '\r' := by simp [isSpace]
  obtain ⟨hspace, hbreak, hreturn⟩ := hletters d hd
  exact fun rest => ⟨h rest, afterHiddenBreak?_cons hspace hbreak hreturn rest⟩

theorem isEscape_codeDigits {c : Char} (h : needsCode c = true) :
    IsEscape c ('u' :: codeDigits c) :=
  fun rest => ⟨readEscape_codeText h rest, afterHiddenBreak?_cons rfl (by decide) (by decide) _⟩

theorem isEscape_of_escape? {long : Bool} {c : Char} {code : List Char}
    (h : escape? long c = some code) : ∃ body, code = '\\' :: body ∧ IsEscape c body := by
  unfold escape? at h
  split_ifs at h with hb ht hn hlong hf hr hslash hcode
  · cases h
    exact ⟨['b'], rfl, isEscape_singleton (by decide) fun _ => by rw [hb, readEscape]⟩
  · cases h
    exact ⟨['t'], rfl, isEscape_singleton (by decide) fun _ => by rw [ht, readEscape]⟩
  · cases h
    exact ⟨['n'], rfl, isEscape_singleton (by decide) fun _ => by rw [hn, readEscape]⟩
  · cases h
    exact ⟨['f'], rfl, isEscape_singleton (by decide) fun _ => by rw [hf, readEscape]⟩
  · cases h
    exact ⟨['r'], rfl, isEscape_singleton (by decide) fun _ => by rw [hr, readEscape]⟩
  · cases h
    exact ⟨['\\'], rfl, isEscape_singleton (by decide) fun _ => by rw [hslash, readEscape]⟩
  · cases h
    exact ⟨'u' :: codeDigits c, rfl, isEscape_codeDigits hcode⟩

theorem isLineChar_of_needsCode {c : Char} (h : needsCode c = false) :
    c = '\n' ∨ isLineChar c = true := by
  simp only [needsCode, Bool.or_eq_false_iff, Bool.and_eq_false_iff, decide_eq_false_iff_not,
    not_not] at h
  simp only [isLineChar, Bool.or_eq_true, Bool.and_eq_true, decide_eq_true_eq, beq_iff_eq]
  obtain ⟨(hlow | htab) | hbreak, hdel⟩ := h
  · exact .inr (.inr ⟨by omega, hdel⟩)
  · exact .inr (.inl htab)
  · exact .inl hbreak

/-- What is written without an escape is a character of a line, or a line break that a long
string may have. -/
theorem of_escape?_eq_none {long : Bool} {c : Char} (h : escape? long c = none) :
    c ≠ '\\' ∧ (isLineChar c = true ∨ long = true ∧ c = '\n') := by
  unfold escape? at h
  split_ifs at h with hb ht hn hlong hf hr hslash hcode
  · refine ⟨?_, .inr ⟨hlong, hn⟩⟩
    rw [hn]
    decide
  · have hline := isLineChar_of_needsCode (Bool.not_eq_true _ ▸ hcode)
    exact ⟨hslash, .inl (hline.resolve_left hn)⟩

/-- How a character is written between double quotes: a quote stays when it makes no three,
other characters get an escape, or they stay too. -/
theorem escaped_cons (long : Bool) (quotes : Nat) (c : Char) (cs : List Char) :
    (c = '"' ∧ long = true ∧ quotes < 2 ∧
      escaped long quotes (c :: cs) = '"' :: escaped long (quotes + 1) cs) ∨
    (∃ body, IsEscape c body ∧
      escaped long quotes (c :: cs) = '\\' :: (body ++ escaped long 0 cs)) ∨
    (c ≠ '"' ∧ c ≠ '\\' ∧ (isLineChar c = true ∨ long = true ∧ c = '\n') ∧
      escaped long quotes (c :: cs) = c :: escaped long 0 cs) := by
  rw [escaped]
  split_ifs with hquote hlong
  · rw [Bool.and_eq_true, decide_eq_true_eq] at hlong
    exact .inl ⟨hquote, hlong.1, hlong.2, by rw [hquote]⟩
  · refine .inr (.inl ⟨['"'], isEscape_singleton (by decide) fun _ => ?_, by rw [hquote]; rfl⟩)
    rw [hquote, readEscape]
  · cases hcode : escape? long c with
    | some code =>
      obtain ⟨body, rfl, hbody⟩ := isEscape_of_escape? hcode
      exact .inr (.inl ⟨body, hbody, rfl⟩)
    | none =>
      obtain ⟨hslash, hline⟩ := of_escape?_eq_none hcode
      exact .inr (.inr ⟨hquote, hslash, hline, rfl⟩)

theorem length_le_length_escaped (long : Bool) : ∀ (quotes : Nat) (cs : List Char),
    cs.length ≤ (escaped long quotes cs).length := by
  intro quotes cs
  induction cs generalizing quotes with
  | nil => exact Nat.zero_le _
  | cons c cs ih =>
    have hrest := ih 0
    obtain ⟨-, -, -, htext⟩ | ⟨body, -, htext⟩ | ⟨-, -, -, htext⟩ := escaped_cons long quotes c cs
    · rw [htext, List.length_cons, List.length_cons]
      exact Nat.succ_le_succ (ih (quotes + 1))
    · rw [htext, List.length_cons, List.length_cons, List.length_append]
      omega
    · rw [htext, List.length_cons, List.length_cons]
      omega

/-! ### Strings on one line -/

/-- A string in double quotes is read back, whatever follows. -/
theorem readBasic_escaped (rest : List Char) : ∀ {cs : List Char} {fuel : Nat},
    cs.length < fuel → readBasic fuel (escaped false 0 cs ++ '"' :: rest) = some (cs, rest) := by
  intro cs
  induction cs with
  | nil =>
    intro fuel hfuel
    obtain ⟨k, rfl, -⟩ := exists_fuel hfuel
    rfl
  | cons c cs ih =>
    intro fuel hfuel
    obtain ⟨k, rfl, hk⟩ := exists_fuel hfuel
    have hrest := ih hk
    obtain ⟨-, hlong, -⟩ | ⟨body, hbody, htext⟩ | ⟨hquote, hslash, hline | ⟨hlong, -⟩, htext⟩ :=
      escaped_cons false 0 c cs
    · cases hlong
    · rw [htext]
      simp [readBasic, List.append_assoc, (hbody _).1, hrest]
    · rw [htext]
      simp [readBasic, hquote, hslash, hline, hrest]
    · cases hlong

/-- A string in single quotes is read back, whatever follows. -/
theorem readLiteral_append (rest : List Char) {cs : List Char}
    (h : ∀ c ∈ cs, c ≠ '\x27' ∧ isLineChar c = true) :
    readLiteral (cs ++ '\x27' :: rest) = some (cs, rest) := by
  induction cs with
  | nil => rfl
  | cons c cs ih =>
    obtain ⟨⟨hquote, hline⟩, hmore⟩ := List.forall_mem_cons.mp h
    rw [List.cons_append, readLiteral, if_neg hquote, if_pos hline, ih hmore]
    rfl

/-! ### Rows of quotes -/

theorem takeWhile_row {quote : Char} (n : Nat) {rest : List Char} (h : rest.head? ≠ some quote) :
    (List.replicate n quote ++ rest).takeWhile (· == quote) = List.replicate n quote := by
  have hrest : rest.takeWhile (· == quote) = [] := by
    cases rest with
    | nil => rfl
    | cons c cs =>
      have hc : c ≠ quote := fun heq => h (by rw [heq, List.head?_cons])
      exact List.takeWhile_cons_of_neg (by simpa using hc)
  rw [List.takeWhile_append_of_pos (by simp), hrest, List.append_nil]

theorem closeLong?_row {quote : Char} (n : Nat) {rest : List Char} (h : rest.head? ≠ some quote) :
    closeLong? quote (List.replicate n quote ++ rest) =
      if n < 3 || 5 < n then none else some (List.replicate (n - 3) quote, rest) := by
  simp only [closeLong?, takeWhile_row n h, List.length_replicate, List.drop_replicate,
    List.drop_left' List.length_replicate]

/-- A text whose quotes at the start, with those before it, are at most two in a row. -/
def RowFits (quote : Char) (before : Nat) (body : List Char) : Prop :=
  ∃ n, n + before ≤ 2 ∧ (body = List.replicate n quote ∨
    ∃ c more, c ≠ quote ∧ body = List.replicate n quote ++ c :: more)

theorem RowFits.nil {quote : Char} {before : Nat} (h : before ≤ 2) : RowFits quote before [] :=
  ⟨0, by omega, .inl rfl⟩

theorem RowFits.other {quote c : Char} {before : Nat} (h : before ≤ 2) (hc : c ≠ quote)
    (more : List Char) : RowFits quote before (c :: more) :=
  ⟨0, by omega, .inr ⟨c, more, hc, rfl⟩⟩

theorem RowFits.cons {quote : Char} {before : Nat} {body : List Char}
    (h : RowFits quote (before + 1) body) : RowFits quote before (quote :: body) := by
  obtain ⟨n, hn, rfl | ⟨c, more, hc, rfl⟩⟩ := h
  · exact ⟨n + 1, by omega, .inl rfl⟩
  · exact ⟨n + 1, by omega, .inr ⟨c, more, hc, rfl⟩⟩

/-- Escapes leave at most two quotes in a row. -/
theorem rowFits_escaped : ∀ {cs : List Char} {quotes : Nat}, quotes ≤ 2 →
    RowFits '"' quotes (escaped true quotes cs) := by
  intro cs
  induction cs with
  | nil => exact fun h => .nil h
  | cons c cs ih =>
    intro quotes h
    obtain ⟨-, -, hlt, htext⟩ | ⟨body, -, htext⟩ | ⟨hquote, -, -, htext⟩ :=
      escaped_cons true quotes c cs
    · rw [htext]
      exact (ih hlt).cons
    · rw [htext]
      exact .other h (by decide) _
    · rw [htext]
      exact .other h hquote _

theorem eq_replicate_of_escaped : ∀ {cs : List Char} {quotes n : Nat},
    escaped true quotes cs = List.replicate n '"' → cs = List.replicate n '"' := by
  intro cs
  induction cs with
  | nil =>
    intro quotes n h
    exact h
  | cons c cs ih =>
    intro quotes n h
    cases n with
    | zero =>
      have hlength := length_le_length_escaped true quotes (c :: cs)
      rw [h] at hlength
      simp at hlength
    | succ n =>
      rw [List.replicate_succ] at h
      obtain ⟨hquote, -, -, htext⟩ | ⟨body, -, htext⟩ | ⟨hquote, -, -, htext⟩ :=
        escaped_cons true quotes c cs
      · rw [htext, List.cons.injEq] at h
        rw [hquote, List.replicate_succ, ih h.2]
      · rw [htext, List.cons.injEq] at h
        exact absurd h.1 (by decide)
      · rw [htext, List.cons.injEq] at h
        exact absurd h.1 hquote

theorem le_longestRow (quote : Char) : ∀ (cs : List Char) (current longest : Nat),
    longest ≤ longestRow quote current longest cs := by
  intro cs
  induction cs with
  | nil => exact fun _ _ => Nat.le_refl _
  | cons c cs ih =>
    intro current longest
    rw [longestRow]
    split_ifs
    · exact Nat.le_trans (Nat.le_max_left _ _) (ih _ _)
    · exact ih _ _

theorem succ_le_longestRow (quote : Char) (cs : List Char) (current longest : Nat) :
    current + 1 ≤ longestRow quote (current + 1) (max longest (current + 1)) cs :=
  Nat.le_trans (Nat.le_max_right _ _) (le_longestRow quote cs _ _)

theorem rowFits_of_longestRow {quote : Char} : ∀ {cs : List Char} {current longest : Nat},
    current ≤ 2 → longestRow quote current longest cs ≤ 2 → RowFits quote current cs := by
  intro cs
  induction cs with
  | nil => exact fun h _ => .nil h
  | cons c cs ih =>
    intro current longest h hrow
    rw [longestRow] at hrow
    split_ifs at hrow with hquote
    · have hnext := Nat.le_trans (succ_le_longestRow quote cs current longest) hrow
      rw [hquote]
      exact (ih hnext hrow).cons
    · exact .other h hquote cs

/-! ### Strings over several lines -/

theorem afterBreak?_cons {c : Char} (hbreak : c ≠ '\n') (hreturn : c ≠ '\r') (cs : List Char) :
    afterBreak? (c :: cs) = none := by
  rw [afterBreak?.eq_def]
  split
  · next heq => cases heq; exact absurd rfl hbreak
  · next heq => cases heq; exact absurd rfl hreturn
  · rfl

theorem afterBreak?_of_isLineChar {c : Char} (h : isLineChar c = true) (cs : List Char) :
    afterBreak? (c :: cs) = none := by
  refine afterBreak?_cons ?_ ?_ cs
  · rintro rfl
    exact absurd h (by decide)
  · rintro rfl
    exact absurd h (by decide)

section Rows

variable {quote : Char} {before fuel : Nat} {body rest : List Char}

/-- What the reader finds at a quote of a text that fits: the end, with the quotes that are
still text, or a quote that is text and not one of three. -/
theorem RowFits.closeLong? (h : RowFits quote (before + 1) body) (hrest : rest.head? ≠ some quote) :
    (∃ n, body = List.replicate n quote ∧
      Toml.closeLong? quote (quote :: (body ++ quote :: quote :: quote :: rest)) =
        some (quote :: body, rest)) ∨
    (Toml.closeLong? quote (quote :: (body ++ quote :: quote :: quote :: rest)) = none ∧
      [quote, quote].isPrefixOf (body ++ quote :: quote :: quote :: rest) = false) := by
  obtain ⟨n, hn, rfl | ⟨c, more, hc, rfl⟩⟩ := h
  · refine .inl ⟨n, rfl, ?_⟩
    have hrow : quote :: (List.replicate n quote ++ quote :: quote :: quote :: rest) =
        List.replicate (n + 4) quote ++ rest := by
      rw [show n + 4 = 1 + n + 3 by omega, ← List.replicate_append_replicate,
        ← List.replicate_append_replicate, List.append_assoc, List.append_assoc]
      rfl
    have hfew : ¬ ((decide (n + 4 < 3) || decide (5 < n + 4)) = true) := by
      simp only [Bool.or_eq_true, decide_eq_true_eq]
      omega
    rw [hrow, closeLong?_row _ hrest, if_neg hfew]
    rfl
  · have hhead : (c :: (more ++ quote :: quote :: quote :: rest)).head? ≠ some quote := by
      simpa using hc
    refine .inr ⟨?_, ?_⟩
    · have hfew : (decide (n + 1 < 3) || decide (5 < n + 1)) = true := by
        simp only [Bool.or_eq_true, decide_eq_true_eq]
        omega
      rw [List.append_assoc, List.cons_append, ← List.cons_append, ← List.replicate_succ,
        closeLong?_row _ hhead, if_pos hfew]
    · have hn : n = 0 ∨ n = 1 := by omega
      rcases hn with rfl | rfl <;> simp [List.isPrefixOf, Ne.symm hc]

end Rows

/-- A string in three double quotes is read back in front of anything but a quote. -/
theorem readLongBasic_escaped {rest : List Char} (hrest : rest.head? ≠ some '"') :
    ∀ {cs : List Char} {fuel quotes : Nat}, quotes ≤ 2 → cs.length < fuel →
      readLongBasic fuel (escaped true quotes cs ++ '"' :: '"' :: '"' :: rest) =
        some (cs, rest) := by
  -- `quotes` is the number of quotes in a row that were read just before
  intro cs
  induction cs with
  | nil =>
    intro fuel quotes _ hfuel
    obtain ⟨k, rfl, -⟩ := exists_fuel hfuel
    have hclose := closeLong?_row 3 hrest
    rw [escaped, List.nil_append, readLongBasic, if_pos rfl]
    rw [show '"' :: '"' :: '"' :: rest = List.replicate 3 '"' ++ rest from rfl, hclose]
    rfl
  | cons c cs ih =>
    intro fuel quotes hquotes hfuel
    obtain ⟨k, rfl, hk⟩ := exists_fuel hfuel
    have hnext := ih (Nat.zero_le 2) hk
    obtain ⟨hquote, -, hlt, htext⟩ | ⟨body, hbody, htext⟩ | ⟨hquote, hslash, hline, htext⟩ :=
      escaped_cons true quotes c cs
    · rw [htext, hquote, List.cons_append, readLongBasic, if_pos rfl]
      rcases (rowFits_escaped hlt).closeLong? hrest with ⟨n, hrow, hclose⟩ | ⟨hclose, hthree⟩
      · rw [hclose, hrow, ← eq_replicate_of_escaped hrow]
      · simp only [hclose, hthree, ih hlt hk]
        rfl
    · obtain ⟨hread, hhidden⟩ := hbody (escaped true 0 cs ++ '"' :: '"' :: '"' :: rest)
      rw [htext]
      simp [readLongBasic, List.append_assoc, hread, hhidden, hnext]
    · rw [htext]
      rcases hline with hline | ⟨-, rfl⟩
      · simp [readLongBasic, hquote, hslash, afterBreak?_of_isLineChar hline, hline, hnext]
      · simp [readLongBasic, afterBreak?, hnext]

/-- A string in three single quotes is read back in front of anything but a quote. -/
theorem readLongLiteral_append {rest : List Char} (hrest : rest.head? ≠ some '\x27') :
    ∀ {cs : List Char} {fuel current longest : Nat}, current ≤ 2 →
      longestRow '\x27' current longest cs ≤ 2 → (∀ c ∈ cs, c = '\n' ∨ isLineChar c = true) →
      cs.length < fuel →
        readLongLiteral fuel (cs ++ '\x27' :: '\x27' :: '\x27' :: rest) = some (cs, rest) := by
  intro cs
  induction cs with
  | nil =>
    intro fuel current longest _ _ _ hfuel
    obtain ⟨k, rfl, -⟩ := exists_fuel hfuel
    have hclose := closeLong?_row 3 hrest
    rw [List.nil_append, readLongLiteral, if_pos rfl]
    rw [show '\x27' :: '\x27' :: '\x27' :: rest = List.replicate 3 '\x27' ++ rest from rfl, hclose]
    rfl
  | cons c cs ih =>
    intro fuel current longest hcurrent hrow hchars hfuel
    obtain ⟨k, rfl, hk⟩ := exists_fuel hfuel
    obtain ⟨hc, hmore⟩ := List.forall_mem_cons.mp hchars
    rw [longestRow] at hrow
    split_ifs at hrow with hquote
    · have hnext := Nat.le_trans (succ_le_longestRow _ cs current longest) hrow
      have hfits := rowFits_of_longestRow hnext hrow
      rw [hquote, List.cons_append, readLongLiteral, if_pos rfl]
      rcases hfits.closeLong? hrest with ⟨n, -, hclose⟩ | ⟨hclose, hthree⟩
      · rw [hclose]
      · simp only [hclose, hthree, ih hnext hrow hmore hk]
        rfl
    · have hnext := ih (Nat.zero_le 2) hrow hmore hk
      rcases hc with rfl | hline
      · simp [readLongLiteral, afterBreak?, hnext]
      · simp [readLongLiteral, hquote, afterBreak?_of_isLineChar hline, hline, hnext]

/-! ### The four styles -/

theorem readText_of_double {cs : List Char} (h : ∀ more, cs ≠ '"' :: '"' :: more) :
    readText ('"' :: cs) = readBasic (cs.length + 1) cs := by
  rw [readText.eq_def]
  split
  · next heq => cases heq; exact absurd rfl (h _)
  · next heq => cases heq
  · rfl

theorem readText_of_single {cs : List Char} (h : ∀ more, cs ≠ '\x27' :: '\x27' :: more) :
    readText ('\x27' :: cs) = readLiteral cs := by
  rw [readText.eq_def]
  split
  · next heq => cases heq
  · next heq => cases heq; exact absurd rfl (h _)
  · rfl

variable {rest : List Char}

theorem readText_basicText (hrest : rest.head? ≠ some '"') (cs : List Char) :
    readText (basicText cs ++ rest) = some (cs, rest) := by
  have hlength := length_le_length_escaped false 0 cs
  have htext : basicText cs ++ rest = '"' :: (escaped false 0 cs ++ '"' :: rest) := by
    simp [basicText]
  rw [htext, readText_of_double]
  · refine readBasic_escaped rest ?_
    rw [List.length_append]
    omega
  · -- two more quotes would be an empty string and a quote after it
    intro more heq
    cases cs with
    | nil =>
      rw [escaped, List.nil_append, List.cons.injEq] at heq
      exact hrest (by rw [heq.2, List.head?_cons])
    | cons c cs =>
      obtain ⟨-, hlong, -⟩ | ⟨body, -, htext⟩ | ⟨hquote, -, -, htext⟩ := escaped_cons false 0 c cs
      · cases hlong
      · rw [htext, List.cons_append, List.cons.injEq] at heq
        exact absurd heq.1 (by decide)
      · rw [htext, List.cons_append, List.cons.injEq] at heq
        exact hquote heq.1

theorem readText_literalText (hrest : rest.head? ≠ some '\x27') {cs : List Char}
    (h : ∀ c ∈ cs, c ≠ '\x27' ∧ isLineChar c = true) :
    readText (literalText cs ++ rest) = some (cs, rest) := by
  have htext : literalText cs ++ rest = '\x27' :: (cs ++ '\x27' :: rest) := by
    simp [literalText]
  rw [htext, readText_of_single, readLiteral_append rest h]
  intro more heq
  cases cs with
  | nil =>
    rw [List.nil_append, List.cons.injEq] at heq
    exact hrest (by rw [heq.2, List.head?_cons])
  | cons c cs =>
    rw [List.cons_append, List.cons.injEq] at heq
    exact (h c List.mem_cons_self).1 heq.1

/-- A long string starts with a line break exactly when its text has one, so none of its
text is lost. -/
theorem skipFirstBreak_longStart {cs body : List Char}
    (h : '\n' ∉ cs → afterBreak? body = none) : skipFirstBreak (longStart cs ++ body) = body := by
  rw [longStart]
  split_ifs with hbreak
  · rfl
  · have hnone := h (by simpa using hbreak)
    rw [List.nil_append, skipFirstBreak, hnone, Option.getD_none]

theorem afterBreak?_escaped {cs : List Char} (h : '\n' ∉ cs) :
    afterBreak? (escaped true 0 cs ++ '"' :: '"' :: '"' :: rest) = none := by
  cases cs with
  | nil => rfl
  | cons c cs =>
    obtain ⟨-, -, -, htext⟩ | ⟨body, -, htext⟩ | ⟨-, -, hline | ⟨-, rfl⟩, htext⟩ :=
      escaped_cons true 0 c cs
    · rw [htext]
      rfl
    · rw [htext]
      rfl
    · rw [htext]
      exact afterBreak?_of_isLineChar hline _
    · exact absurd List.mem_cons_self h

theorem readText_longBasicText (hrest : rest.head? ≠ some '"') (cs : List Char) :
    readText (longBasicText cs ++ rest) = some (cs, rest) := by
  have htext : longBasicText cs ++ rest = '"' :: '"' :: '"' ::
      (longStart cs ++ (escaped true 0 cs ++ '"' :: '"' :: '"' :: rest)) := by
    simp [longBasicText]
  have hlength := length_le_length_escaped true 0 cs
  rw [htext, readText, skipFirstBreak_longStart afterBreak?_escaped]
  refine readLongBasic_escaped hrest (Nat.zero_le 2) ?_
  simp only [List.length_append]
  omega

theorem readText_longLiteralText (hrest : rest.head? ≠ some '\x27') {cs : List Char}
    (hrow : longestRow '\x27' 0 0 cs ≤ 2) (h : ∀ c ∈ cs, c = '\n' ∨ isLineChar c = true) :
    readText (longLiteralText cs ++ rest) = some (cs, rest) := by
  have htext : longLiteralText cs ++ rest = '\x27' :: '\x27' :: '\x27' ::
      (longStart cs ++ (cs ++ '\x27' :: '\x27' :: '\x27' :: rest)) := by
    simp [longLiteralText]
  have hstart : '\n' ∉ cs → afterBreak? (cs ++ '\x27' :: '\x27' :: '\x27' :: rest) = none := by
    intro hbreak
    cases cs with
    | nil => rfl
    | cons c cs =>
      rcases h c List.mem_cons_self with rfl | hline
      · exact absurd List.mem_cons_self hbreak
      · exact afterBreak?_of_isLineChar hline _
  rw [htext, readText, skipFirstBreak_longStart hstart]
  refine readLongLiteral_append hrest (Nat.zero_le 2) hrow h ?_
  simp only [List.length_append]
  omega

theorem notMem_of_longestRow_eq_zero {quote : Char} : ∀ {cs : List Char} {current : Nat},
    longestRow quote current 0 cs = 0 → quote ∉ cs := by
  intro cs
  induction cs with
  | nil => exact fun _ => List.not_mem_nil
  | cons c cs ih =>
    intro current h
    rw [longestRow] at h
    split_ifs at h with hquote
    · have hle := le_longestRow quote cs (current + 1) (max 0 (current + 1))
      omega
    · exact List.not_mem_cons_of_ne_of_not_mem (Ne.symm hquote) (ih h)

/-- A string is read back from its text as a value, in front of anything but a quote. -/
theorem readText_valueChars (hdouble : rest.head? ≠ some '"') (hsingle : rest.head? ≠ some '\x27')
    (cs : List Char) : readText (valueChars cs ++ rest) = some (cs, rest) := by
  have hchars : (cs.any needsCode) = false → ∀ c ∈ cs, c = '\n' ∨ isLineChar c = true := by
    intro hcodes c hc
    exact isLineChar_of_needsCode (by simpa using List.any_eq_false.mp hcodes c hc)
  simp only [valueChars]
  split_ifs with hplain hliteral hlong hlongLiteral hbroken
  · exact readText_basicText hdouble cs
  · simp only [Bool.and_eq_true, Bool.not_eq_true', decide_eq_true_eq] at hliteral
    obtain ⟨⟨hcodes, hrow⟩, hbreak⟩ := hliteral
    refine readText_literalText hsingle fun c hc => ⟨?_, ?_⟩
    · rintro rfl
      exact notMem_of_longestRow_eq_zero hrow hc
    · rcases hchars hcodes c hc with rfl | hline
      · exact absurd hc (by simpa using hbreak)
      · exact hline
  · exact readText_longBasicText hdouble cs
  · simp only [Bool.and_eq_true, Bool.not_eq_true', decide_eq_true_eq] at hlongLiteral
    exact readText_longLiteralText hsingle hlongLiteral.2 (hchars hlongLiteral.1)
  · exact readText_longBasicText hdouble cs
  · exact readText_basicText hdouble cs

end TreeSmith.Toml
