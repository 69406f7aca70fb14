import Mathlib
import TreeSmith.Proofs.Encoding
import TreeSmith.Proofs.Lines
import TreeSmith.Suite.Execution

/-!
# Written headers

A header is written as comments, one for each line of output and one for the exit code.
Reading what was written gives the header back, whatever follows it in the file, as long
as the body does not go on with a comment.  A run is judged by another splitter than the
one that reads the header; a run that writes the lines of the header and exits with its
code meets the header all the same.

## Main definitions

* `Header.text` — a header as it is written.

## Main results

* `leadingComments_written` — the comments at the start of a file with a written header.
* `Header.parse_written` — reading a written header gives it back.
* `Header.parse_text_and_isMetBy` — and the runs that meet it.
-/

namespace TreeSmith

namespace Text

/-! ### Digits -/

theorem isBlank_of_isDigit {c : Char} (hc : c.isDigit = true) : isBlank c = false := by
  have hcode : 48 ≤ c.toNat ∧ c.toNat ≤ 57 := by
    simp only [Char.isDigit, Bool.and_eq_true, decide_eq_true_eq] at hc
    exact hc
  have hranges : ∀ range ∈ blankRanges, range.2 < 48 ∨ 57 < range.1 := by decide
  rw [isBlank, CodeRange.Table.has, List.any_eq_false]
  intro range hrange
  have := hranges range hrange
  simp only [Bool.and_eq_true, decide_eq_true_eq]
  omega

/-- A decimal is a plain line. -/
theorem isPlainLine_toString (n : Nat) : IsPlainLine (toString n) where
  ne_empty h := Nat.toDigits_ne_nil (b := 10) (n := n) (by
    rw [← Nat.toList_repr]
    exact congrArg String.toList h)
  notMem h := by
    have hdigit := Nat.isDigit_of_mem_toDigits (b := 10) (by decide) (by decide)
      (Nat.toList_repr ▸ h)
    exact absurd hdigit (by decide)
  trimmed_eq := by
    have hblank : ∀ c ∈ (toString n).toList, isBlank c = false := fun c hc =>
      isBlank_of_isDigit (Nat.isDigit_of_mem_toDigits (b := 10) (by decide) (by decide)
        (Nat.toList_repr ▸ hc))
    rw [trimmed, trim_eq_self hblank, String.ofList_toList]

end Text

theorem digitsValue_toDigits (n : Nat) : digitsValue (Nat.toDigits 10 n) = n := by
  rw [digitsValue, ← Nat.ofDigitChars_eq_foldl, Nat.ofDigitChars_ten_toDigits]

namespace Suite

/-! ### Comments -/

/-- A line as it is written in a header. -/
def commentLine (l : String) : String := "// " ++ l ++ "\n"

/-- A header as it is written. -/
def Header.text (h : Header) : String :=
  String.join ((h.output ++ [toString h.status]).map commentLine)

theorem eq_of_comment?_eq_some {first said : List Char} (h : comment? first = some said) :
    first = "//".toList ++ said := by
  unfold comment? at h
  split at h
  · cases h
    rfl
  · cases h

/-- A text that does not start with a comment has no comments at its start. -/
theorem leadingComments_of_not_prefix {body : List Char} (hbody : ¬ "//".toList <+: body) :
    leadingComments (Text.lines body) = [] := by
  cases hlines : Text.lines body with
  | nil => rfl
  | cons first more =>
    have hfirst : comment? first = none := by
      rw [Option.eq_none_iff_forall_ne_some]
      intro said hsaid
      refine hbody (List.IsPrefix.trans ?_ (Text.prefix_of_lines_eq_cons hlines))
      exact ⟨said, (eq_of_comment?_eq_some hsaid).symm⟩
    rw [leadingComments, hfirst]

theorem leadingComments_commentLine {l : String} (hl : Text.IsPlainLine l) (rest : String) :
    leadingComments (Text.lines (commentLine l ++ rest).toList) =
      (' ' :: l.toList) :: leadingComments (Text.lines rest.toList) := by
  have hcut : (commentLine l ++ rest).toList = ("// ".toList ++ l.toList) ++ '\n' :: rest.toList := by
    simp [commentLine]
  have hfeed : '\n' ∉ "// ".toList ++ l.toList := by
    rw [List.mem_append, not_or]
    exact ⟨by decide, hl.notMem⟩
  -- the line ends like `l`, so that no carriage return is lost with the line feed
  rw [hcut, Text.lines_append_cons hfeed, hl.dropReturn_append]
  rfl

/-- The comments of written lines are found one by one, up to what follows them. -/
theorem leadingComments_written {ls : List String} (hls : ∀ l ∈ ls, Text.IsPlainLine l)
    {body : String} (hbody : ¬ "//".toList <+: body.toList) :
    leadingComments (Text.lines (String.join (ls.map commentLine) ++ body).toList) =
      ls.map fun l => ' ' :: l.toList := by
  induction ls with
  | nil => simpa using leadingComments_of_not_prefix hbody
  | cons l ls ih =>
    rw [List.map_cons, String.join_cons, String.append_assoc,
      leadingComments_commentLine (hls l List.mem_cons_self),
      ih fun l' hl' => hls l' (List.mem_cons_of_mem l hl'), List.map_cons]

/-! ### Reading comments -/

theorem readOutput_written {ls : List String} (hls : ∀ l ∈ ls, Text.IsPlainLine l) (number : Nat) :
    readOutput number (ls.map fun l => ' ' :: l.toList) = .ok ls := by
  induction ls generalizing number with
  | nil => rfl
  | cons l ls ih =>
    have htrim : Text.trim (' ' :: l.toList) = l.toList := by
      rw [Text.trim_cons_of_isBlank (by decide), (hls l List.mem_cons_self).trim_eq]
    rw [List.map_cons, readOutput, ih fun l' hl' => hls l' (List.mem_cons_of_mem l hl')]
    · simp [htrim]
    · exact List.cons_ne_nil _ _

theorem readStatus?_written {n : Nat} (hn : n ≤ maxStatus) :
    readStatus? (' ' :: (toString n).toList) = some n := by
  have hdigits : ∀ c ∈ Nat.toDigits 10 n, c.isDigit = true := fun c =>
    Nat.isDigit_of_mem_toDigits (by decide) (by decide)
  have hstart : (' ' :: Nat.toDigits 10 n).dropWhile (· == ' ') = Nat.toDigits 10 n := by
    rw [List.dropWhile_cons_of_pos (by decide)]
    obtain ⟨d, ds, hds⟩ := List.exists_cons_of_ne_nil (Nat.toDigits_ne_nil (b := 10) (n := n))
    have hd : d.isDigit = true := hdigits d (hds ▸ List.mem_cons_self)
    rw [hds, List.dropWhile_cons_of_neg]
    intro hspace
    rw [beq_iff_eq.mp hspace] at hd
    exact absurd hd (by decide)
  have hrepr : (toString n).toList = Nat.toDigits 10 n := Nat.toList_repr
  rw [readStatus?, hrepr, hstart, digitsValue_toDigits]
  simp only [List.isEmpty_eq_false_iff.mpr Nat.toDigits_ne_nil, List.all_eq_true.mpr hdigits]
  simp [hn]

/-- Reading a header back from the text that it is written as. -/
theorem Header.parse_written {h : Header} (houtput : ∀ l ∈ h.output, Text.IsPlainLine l)
    (hstatus : h.status ≤ maxStatus) {body : String} (hbody : ¬ "//".toList <+: body.toList) :
    Header.parse (h.text ++ body) = .ok h := by
  have hplain : ∀ l ∈ h.output ++ [toString h.status], Text.IsPlainLine l := by
    intro l hl
    rcases List.mem_append.mp hl with hl | hl
    · exact houtput l hl
    · rw [List.mem_singleton.mp hl]
      exact Text.isPlainLine_toString h.status
  rw [Header.parse, Header.text, leadingComments_written hplain hbody, List.map_append,
    List.map_singleton]
  simp only [List.getLast?_append, List.getLast?_singleton, Option.some_or, List.dropLast_concat,
    readOutput_written houtput, readStatus?_written hstatus]

/-! ### Meeting a header -/

theorem Header.isMetBy_iff (h : Header) (o : Outcome) :
    h.isMetBy o false = true ↔ o.lines = h.output ∧ o.status = h.status := by
  simp [Header.isMetBy]

/-- With nothing written about errors, the lines of a run are those of its output. -/
theorem collectedLines_empty (stdout : String) :
    collectedLines stdout "" = Text.significantLines stdout := by
  rw [collectedLines, String.append_empty]

theorem Execution.outcome_of_stderr_empty {e : Execution} (he : e.stderr = ByteArray.empty) :
    e.outcome = ⟨Text.significantLines (Text.lossyText e.stdout), e.ending.status⟩ := by
  have hempty : Text.lossyText ByteArray.empty = "" := Text.lossyText_toUTF8 ""
  rw [Execution.outcome, he, hempty, collectedLines_empty]

/-- A header of plain lines and an exit code of 31 bits is read back from its text in front
of every body that does not start with a comment.  A run without errors meets it just if
its output says the lines of the header and its status is the exit code, which is so for the
run that writes these lines one by one. -/
theorem Header.parse_text_and_isMetBy (h : Header) (houtput : ∀ l ∈ h.output, Text.IsPlainLine l)
    (hstatus : h.status < 2 ^ 31) (body : String) (hbody : ¬ "//".toList <+: body.toList) :
    Header.parse (h.text ++ body) = .ok h ∧
      (∀ (stdout : String) (status : Int),
        h.isMetBy ⟨collectedLines stdout "", status⟩ false = true ↔
          Text.significantLines stdout = h.output ∧ status = h.status) ∧
      h.isMetBy ⟨collectedLines (String.join (h.output.map (· ++ "\n"))) "", h.status⟩ false
        = true ∧
      ∀ e : Execution, e.stderr = ByteArray.empty →
        (h.isMetBy e.outcome false = true ↔
          Text.significantLines (Text.lossyText e.stdout) = h.output ∧
            e.ending.status = h.status) ∧
        (e.stdout = (String.join (h.output.map (· ++ "\n"))).toUTF8 →
          e.ending.status = h.status → h.isMetBy e.outcome false = true) := by
  -- the splitter of runs gives back the lines that the reader of headers gave
  have hlines := Text.significantLines_join houtput
  refine ⟨Header.parse_written houtput (Nat.le_of_lt_succ hstatus) hbody, ?_, ?_, ?_⟩
  · intro stdout status
    rw [Header.isMetBy_iff, collectedLines_empty]
  · rw [Header.isMetBy_iff, collectedLines_empty]
    exact ⟨hlines, rfl⟩
  · intro e he
    rw [Execution.outcome_of_stderr_empty he, Header.isMetBy_iff]
    refine ⟨Iff.rfl, fun hstdout hending => ⟨?_, hending⟩⟩
    rw [hstdout, Text.lossyText_toUTF8]
    exact hlines

/-- Lines that look like a comment and like an exit code, and a carriage return inside of a
line, in front of a body with a comment below its first line. -/
theorem Header.parse_text_and_isMetBy_lookalikes :
    Header.parse "// // 7\n// 0\n// a\r b\n// 70\n\r\n// 1\n" = .ok ⟨["// 7", "0", "a\r b"], 70⟩ ∧
      Header.isMetBy ⟨["// 7", "0", "a\r b"], 70⟩
        ⟨collectedLines "\n // 7\r\n\t\n0\na\r b" "", 70⟩ false = true ∧
      ¬ Header.isMetBy ⟨["// 7", "0", "a\r b"], 70⟩ ⟨collectedLines "// 7\n0\na\r b\n" "", 1⟩ false
        = true := by
  have houtput : ∀ l ∈ ["// 7", "0", "a\r b"], Text.IsPlainLine l := by
    intro l hl
    have hplain : l ≠ "" ∧ '\n' ∉ l.toList ∧ Text.trimmed l = l := by
      revert l
      decide
    exact ⟨hplain.1, hplain.2.1, hplain.2.2⟩
  obtain ⟨hparse, hmet, -, -⟩ := Header.parse_text_and_isMetBy ⟨["// 7", "0", "a\r b"], 70⟩ houtput
    (by decide) "\r\n// 1\n" (by decide)
  refine ⟨hparse, (hmet _ _).mpr ⟨by decide, rfl⟩, fun h => ?_⟩
  exact absurd ((hmet _ _).mp h).2 (by decide)

end Suite

end TreeSmith
