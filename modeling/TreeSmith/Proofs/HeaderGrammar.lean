import Mathlib.Data.List.TakeWhile
import Mathlib.Order.Nat
import TreeSmith.Proofs.Headers

/-!
# What a header is

The header of a file is made of the lines at its start that are comments.  What comes of it
is said here line by line, without a reader: none of them, a bare comment before the last
line, a last line that is no exit code, and otherwise the lines of output with the exit
code.  The reader gives this answer on every text, and nothing below the header matters.

## Main definitions

* `headerLines` — the comment lines at the start of a file.
* `IsBare`, `SaysStatus` — what such a line may be.
* `Header.Reads` — what comes of the lines.
* `IsHeaderCut` — a text cut below the header.

## Main results

* `readStatus?_eq_some` — the reader of exit codes accepts exactly the lines that say one.
* `exists_isHeaderCut` — a file is cut below its header.
* `Header.parse_eq_iff_reads` — **the reader accepts exactly the headers, and reports the
  first thing that is wrong with any other text.**
-/

namespace TreeSmith.Suite

/-! ### Lines of a header -/

/-- The lines at the start of a text that are comments, as many as follow each other. -/
def headerLines (source : List Char) : List (List Char) :=
  (Text.lines source).takeWhile "//".toList.isPrefixOf

/-- The line with this number, counted from one, is a bare comment, and not the last. -/
def IsBare (h : List (List Char)) (number : Nat) : Prop :=
  0 < number ∧ number < h.length ∧ h[number - 1]? = some "//".toList

/-- The line says an exit code: a comment of any number of spaces and the decimal digits of a
number of 31 bits, up to the end of the line. -/
def SaysStatus (line : List Char) (status : Nat) : Prop :=
  ∃ (spaces : Nat) (digits : List Char),
    line = "//".toList ++ List.replicate spaces ' ' ++ digits ∧ digits ≠ [] ∧
      (∀ d ∈ digits, d.isDigit = true) ∧ Nat.ofDigitChars 10 digits 0 = status ∧
      status ≤ 2147483647

/-- What comes of the comment lines at the start of a file. -/
inductive Header.Reads (h : List (List Char)) : Except HeaderFault Header → Prop
  /-- There is none. -/
  | missing (hnone : h = []) : Reads h (.error .missing)
  /-- Lines before the last are bare comments, and this is the first of them. -/
  | emptyLine {number : Nat} (hfirst : IsLeast {k | IsBare h k} number) :
      Reads h (.error (.emptyLine number))
  /-- The last line says no exit code. -/
  | exitCode {last : List Char} (hlast : h.getLast? = some last) (hbare : ∀ k, ¬ IsBare h k)
      (hstatus : ∀ n, ¬ SaysStatus last n) : Reads h (.error (.exitCode (String.ofList last)))
  /-- The last line says the exit code, and the lines before it say the output. -/
  | header {last : List Char} {status : Nat} (hlast : h.getLast? = some last)
      (hbare : ∀ k, ¬ IsBare h k) (hstatus : SaysStatus last status) :
      Reads h (.ok ⟨h.dropLast.map fun line => Text.trimmed (String.ofList (line.drop 2)), status⟩)

/-- Something comes of all lines. -/
theorem Header.exists_reads (h : List (List Char)) : ∃ outcome, Reads h outcome := by
  rcases List.eq_nil_or_concat h with hnone | ⟨front, last, hh⟩
  · exact ⟨_, .missing hnone⟩
  have hlast : h.getLast? = some last := by simp [hh]
  by_cases hbare : ∃ k, IsBare h k
  · classical
    exact ⟨_, .emptyLine (Nat.isLeast_find hbare)⟩
  · have hbare := not_exists.mp hbare
    by_cases hstatus : ∃ n, SaysStatus last n
    · obtain ⟨n, hn⟩ := hstatus
      exact ⟨_, .header hlast hbare hn⟩
    · exact ⟨_, .exitCode hlast hbare (not_exists.mp hstatus)⟩

/-! ### Comments -/

theorem comment?_append (said : List Char) : comment? ("//".toList ++ said) = some said := rfl

theorem comment?_eq_none {line : List Char} (h : ¬ "//".toList <+: line) :
    comment? line = none := by
  rw [Option.eq_none_iff_forall_ne_some]
  intro said hsaid
  exact h ⟨said, (eq_of_comment?_eq_some hsaid).symm⟩

/-- The reader sees the comment lines without their marks. -/
theorem leadingComments_eq (ls : List (List Char)) :
    leadingComments ls = (ls.takeWhile "//".toList.isPrefixOf).map (·.drop 2) := by
  induction ls with
  | nil => rfl
  | cons line more ih =>
    rw [leadingComments, List.takeWhile_cons]
    by_cases h : "//".toList <+: line
    · obtain ⟨said, rfl⟩ := h
      rw [comment?_append, if_pos (List.isPrefixOf_iff_prefix.mpr (List.prefix_append _ _)), ih]
      rfl
    · rw [comment?_eq_none h, if_neg (mt List.isPrefixOf_iff_prefix.mp h)]
      rfl

theorem prefix_of_mem_headerLines {source : List Char} {line : List Char}
    (h : line ∈ headerLines source) : "//".toList <+: line :=
  List.isPrefixOf_iff_prefix.mp (List.mem_takeWhile_imp h)

/-! ### Reading comments -/

theorem readOutput_of_notMem {comments : List (List Char)} (h : [] ∉ comments) (number : Nat) :
    readOutput number comments = .ok (comments.map fun said => String.ofList (Text.trim said)) := by
  induction comments generalizing number with
  | nil => rfl
  | cons said more ih =>
    rw [List.mem_cons, not_or] at h
    rw [readOutput, ih h.2, List.map_cons]
    exact Ne.symm h.1

/-- The first comment that says nothing is reported by its number. -/
theorem readOutput_of_first {comments : List (List Char)} {i : Nat}
    (hi : comments[i]? = some []) (hfirst : ∀ j < i, comments[j]? ≠ some []) (number : Nat) :
    readOutput number comments = .error (.emptyLine (number + i)) := by
  induction comments generalizing i number with
  | nil => simp at hi
  | cons said more ih =>
    cases i with
    | zero =>
      obtain rfl : said = [] := by simpa using hi
      rfl
    | succ i =>
      have hsaid : said ≠ [] := by simpa using hfirst 0 (Nat.succ_pos i)
      have hmore := ih (i := i) (by simpa using hi)
        (fun j hj => by simpa using hfirst (j + 1) (Nat.succ_lt_succ hj)) (number + 1)
      rw [readOutput, hmore, Nat.add_right_comm, Nat.add_assoc]
      exact hsaid

theorem dropWhile_of_digits {digits : List Char} (h : ∀ d ∈ digits, d.isDigit = true) :
    digits.dropWhile (· == ' ') = digits := by
  cases digits with
  | nil => rfl
  | cons d ds =>
    refine List.dropWhile_cons_of_neg fun hspace => ?_
    have hd := h d List.mem_cons_self
    rw [beq_iff_eq.mp hspace] at hd
    exact absurd hd (by decide)

/-- **The reader of exit codes accepts exactly the comments that say one.** -/
theorem readStatus?_eq_some {said : List Char} {status : Nat} :
    readStatus? said = some status ↔ SaysStatus ("//".toList ++ said) status := by
  have hvalue : ∀ digits, digitsValue digits = Nat.ofDigitChars 10 digits 0 := fun digits =>
    Nat.ofDigitChars_eq_foldl.symm
  constructor
  · intro h
    simp only [readStatus?, hvalue] at h
    split at h
    · cases h
    · next hread =>
      simp only [Bool.or_eq_true, List.isEmpty_iff, Bool.not_eq_true', decide_eq_true_eq,
        not_or, Bool.not_eq_false, List.all_eq_true, Nat.not_lt] at hread
      obtain ⟨⟨hne, hdigits⟩, hmax⟩ := hread
      obtain rfl := Option.some.inj h
      refine ⟨(said.takeWhile (· == ' ')).length, _, ?_, hne, hdigits, rfl, hmax⟩
      -- what the reader drops is a row of spaces
      have hspace : ∀ c ∈ said.takeWhile (· == ' '), c = ' ' := fun c hc => by
        simpa using List.mem_takeWhile_imp hc
      have hspaces : said.takeWhile (· == ' ') =
          List.replicate (said.takeWhile (· == ' ')).length ' ' :=
        List.eq_replicate_iff.mpr ⟨rfl, hspace⟩
      rw [← hspaces, List.append_assoc, List.takeWhile_append_dropWhile]
  · rintro ⟨spaces, digits, hline, hne, hdigits, rfl, hmax⟩
    rw [List.append_assoc, List.append_cancel_left_eq] at hline
    have hdrop : said.dropWhile (· == ' ') = digits := by
      rw [hline, List.dropWhile_append_of_pos, dropWhile_of_digits hdigits]
      intro c hc
      rw [List.eq_of_mem_replicate hc, beq_self_eq_true]
    simp only [readStatus?, hdrop, hvalue]
    simp [hne, List.all_eq_true.mpr hdigits, maxStatus, Nat.not_lt.mpr hmax]

theorem readStatus?_drop {line : List Char} (hline : "//".toList <+: line) {status : Nat} :
    readStatus? (line.drop 2) = some status ↔ SaysStatus line status := by
  obtain ⟨said, rfl⟩ := hline
  exact readStatus?_eq_some

/-! ### Reading a header -/

/-- The bare lines are the lines before the last that say nothing. -/
theorem isBare_succ {h : List (List Char)} (hcomments : ∀ line ∈ h, "//".toList <+: line)
    {k : Nat} : IsBare h (k + 1) ↔ (h.dropLast.map (·.drop 2))[k]? = some [] := by
  rw [IsBare, Nat.add_sub_cancel, List.getElem?_map, Option.map_eq_some_iff]
  constructor
  · rintro ⟨-, hk, hbare⟩
    refine ⟨"//".toList, ?_, rfl⟩
    rw [List.getElem?_dropLast, if_pos (Nat.lt_sub_of_add_lt hk), hbare]
  · rintro ⟨line, hline, hsaid⟩
    rw [List.getElem?_dropLast] at hline
    split at hline
    · next hk =>
      obtain ⟨said, rfl⟩ := hcomments line (List.mem_of_getElem? hline)
      obtain rfl : said = [] := hsaid
      exact ⟨Nat.succ_pos k, Nat.add_lt_of_lt_sub hk, hline⟩
    · cases hline

section Parse

variable {source : String}

theorem leadingComments_lines (source : String) :
    leadingComments (Text.lines source.toList) = (headerLines source.toList).map (·.drop 2) :=
  leadingComments_eq _

/-- The reader goes by the lines of the header alone. -/
theorem Header.parse_of_getLast? {last : List Char}
    (hlast : (headerLines source.toList).getLast? = some last) :
    Header.parse source =
      match readOutput 1 ((headerLines source.toList).dropLast.map (·.drop 2)) with
      | .error fault => .error fault
      | .ok output =>
        match readStatus? (last.drop 2) with
        | none => .error (.exitCode (String.ofList last))
        | some status => .ok ⟨output, status⟩ := by
  obtain ⟨said, rfl⟩ := prefix_of_mem_headerLines (List.mem_of_getLast? hlast)
  have hline : "//" ++ String.ofList said = String.ofList ("//".toList ++ said) := by
    rw [String.ofList_append, String.ofList_toList]
  rw [Header.parse, leadingComments_lines, ← List.map_dropLast, List.getLast?_map, hlast, ← hline]
  rfl

theorem Header.parse_congr {source' : String}
    (h : headerLines source'.toList = headerLines source.toList) :
    Header.parse source' = Header.parse source := by
  rw [Header.parse, Header.parse, leadingComments_lines, leadingComments_lines, h]

/-- Without bare lines, all lines before the last are read. -/
theorem readOutput_of_not_isBare (hbare : ∀ k, ¬ IsBare (headerLines source.toList) k) :
    readOutput 1 ((headerLines source.toList).dropLast.map (·.drop 2)) =
      .ok ((headerLines source.toList).dropLast.map fun line =>
        Text.trimmed (String.ofList (line.drop 2))) := by
  rw [readOutput_of_notMem, List.map_map]
  · simp only [Function.comp_def, Text.trimmed, String.toList_ofList]
  · intro hmem
    obtain ⟨k, hk⟩ := List.mem_iff_getElem?.mp hmem
    exact hbare (k + 1) ((isBare_succ fun line => prefix_of_mem_headerLines).mpr hk)

/-- The reader finds what comes of the lines. -/
theorem Header.parse_of_reads {outcome : Except HeaderFault Header}
    (h : Header.Reads (headerLines source.toList) outcome) : Header.parse source = outcome := by
  have hcomments : ∀ line ∈ headerLines source.toList, "//".toList <+: line :=
    fun line => prefix_of_mem_headerLines
  cases h with
  | missing hnone =>
    rw [Header.parse, leadingComments_lines, hnone]
    rfl
  | @emptyLine number hfirst =>
    obtain ⟨hpos, hlt, hbare⟩ := hfirst.1
    obtain ⟨k, rfl⟩ := Nat.exists_eq_add_one_of_ne_zero (Nat.ne_of_gt hpos)
    have hne : headerLines source.toList ≠ [] := List.ne_nil_of_length_pos (Nat.zero_lt_of_lt hlt)
    have hread := readOutput_of_first ((isBare_succ hcomments).mp hfirst.1)
      (fun j hj hj' => by
        have := hfirst.2 ((isBare_succ hcomments).mpr hj')
        omega) 1
    rw [Header.parse_of_getLast? (List.getLast?_eq_some_getLast hne), hread, Nat.add_comm]
  | @exitCode last hlast hbare hstatus =>
    have hcomment := hcomments last (List.mem_of_getLast? hlast)
    have hnone : readStatus? (last.drop 2) = none := by
      rw [Option.eq_none_iff_forall_ne_some]
      exact fun n hn => hstatus n ((readStatus?_drop hcomment).mp hn)
    simp only [Header.parse_of_getLast? hlast, readOutput_of_not_isBare hbare, hnone]
  | @header last status hlast hbare hstatus =>
    have hcomment := hcomments last (List.mem_of_getLast? hlast)
    simp only [Header.parse_of_getLast? hlast, readOutput_of_not_isBare hbare,
      (readStatus?_drop hcomment).mpr hstatus]

/-- Of all that may come of the lines, the reader answers what does. -/
theorem Header.reads_parse (source : String) :
    Header.Reads (headerLines source.toList) (Header.parse source) := by
  obtain ⟨outcome, houtcome⟩ := Header.exists_reads (headerLines source.toList)
  rwa [Header.parse_of_reads houtcome]

end Parse

/-! ### Below the header -/

theorem headerLines_eq_nil {body : List Char} (h : ¬ "//".toList <+: body) :
    headerLines body = [] := by
  have hnone := leadingComments_of_not_prefix h
  rwa [leadingComments_eq, List.map_eq_nil_iff] at hnone

/-- A line that starts a comment does so before its line feed. -/
theorem comment_of_append {line rest : List Char} (h : "//".toList <+: line ++ '\n' :: rest) :
    "//".toList <+: line := by
  cases line with
  | nil => simp at h
  | cons a line =>
    cases line with
    | nil => simp at h
    | cons b line => simpa using h

/-- A comment is still one when a carriage return at its end is dropped. -/
theorem comment_dropReturn {line : List Char} (h : "//".toList <+: line) :
    "//".toList <+: Text.dropReturn line := by
  obtain ⟨said, rfl⟩ := h
  unfold Text.dropReturn
  split
  · next hreturn =>
    cases said with
    | nil => simp at hreturn
    | cons c said => exact ⟨(c :: said).dropLast, rfl⟩
  · exact List.prefix_append _ _

theorem headerLines_append_cons {line : List Char} (hfeed : '\n' ∉ line)
    (hcomment : "//".toList <+: line) (rest : List Char) :
    headerLines (line ++ '\n' :: rest) = Text.dropReturn line :: headerLines rest := by
  rw [headerLines, Text.lines_append_cons hfeed, List.takeWhile_cons_of_pos]
  · rfl
  · exact List.isPrefixOf_iff_prefix.mpr (comment_dropReturn hcomment)

theorem headerLines_of_notMem {line : List Char} (hfeed : '\n' ∉ line)
    (hcomment : "//".toList <+: line) : headerLines line = Text.lines line := by
  have hne : line ≠ [] := by
    rintro rfl
    simp at hcomment
  rw [headerLines, Text.lines_of_notMem hfeed, if_neg hne, List.takeWhile_cons_of_pos]
  · rfl
  · exact List.isPrefixOf_iff_prefix.mpr hcomment

/-- The text is cut below its header. -/
structure IsHeaderCut (source front rest : List Char) : Prop where
  /-- The text is made of both parts. -/
  text : source = front ++ rest
  /-- The first part is the header. -/
  lines : Text.lines front = headerLines source
  /-- Where something stands below the header, anything else that does not start with a
  comment leaves the header as it is. -/
  below : rest ≠ [] → ∀ rest', ¬ "//".toList <+: rest' →
    headerLines (front ++ rest') = headerLines source

theorem isHeaderCut_nil {source : List Char} (h : ¬ "//".toList <+: source) :
    IsHeaderCut source [] source where
  text := rfl
  lines := (headerLines_eq_nil h).symm
  below _ rest' hrest' := by
    rw [List.nil_append, headerLines_eq_nil hrest', headerLines_eq_nil h]

/-- **Every text is cut below its header.** -/
theorem exists_isHeaderCut (source : List Char) : ∃ front rest, IsHeaderCut source front rest := by
  induction source using Text.line_induction with
  | last cs hfeed =>
    by_cases hcomment : "//".toList <+: cs
    · exact ⟨cs, [], (List.append_nil cs).symm, (headerLines_of_notMem hfeed hcomment).symm,
        fun h => absurd rfl h⟩
    · exact ⟨[], cs, isHeaderCut_nil hcomment⟩
  | line first more hfeed ih =>
    by_cases hcomment : "//".toList <+: first ++ '\n' :: more
    · have hfirst := comment_of_append hcomment
      obtain ⟨front, rest, rfl, hlines, hbelow⟩ := ih
      refine ⟨first ++ '\n' :: front, rest, by simp, ?_, fun hrest rest' hrest' => ?_⟩
      · rw [Text.lines_append_cons hfeed, hlines, headerLines_append_cons hfeed hfirst]
      · rw [List.append_assoc, List.cons_append, headerLines_append_cons hfeed hfirst,
          headerLines_append_cons hfeed hfirst, hbelow hrest rest' hrest']
    · exact ⟨[], _, isHeaderCut_nil hcomment⟩

/-- **The reader accepts exactly the headers.**  What it answers is what comes of the comment
lines at the start of the text, and nothing else is an answer: it reports that there are
none, the first bare comment before the last line, or a last line that says no exit code, in
this order, and otherwise gives the output and the exit code that the lines say.  The text is
cut below these lines; without what stands there, or with anything else that does not start
with a comment in its place, the answer is the same. -/
theorem Header.parse_eq_iff_reads (source : String) :
    (∀ outcome, Header.parse source = outcome ↔
      Header.Reads (headerLines source.toList) outcome) ∧
    ∃ front rest : String, source = front ++ rest ∧
      Text.lines front.toList = headerLines source.toList ∧
      Header.parse front = Header.parse source ∧
      (rest ≠ "" → ∀ rest' : String, ¬ "//".toList <+: rest'.toList →
        Header.parse (front ++ rest') = Header.parse source) := by
  refine ⟨fun outcome => ⟨?_, Header.parse_of_reads⟩, ?_⟩
  · rintro rfl
    exact Header.reads_parse source
  · obtain ⟨front, rest, hcut⟩ := exists_isHeaderCut source.toList
    refine ⟨String.ofList front, String.ofList rest, ?_, ?_, Header.parse_congr ?_,
      fun hrest rest' hrest' => Header.parse_congr ?_⟩
    · rw [← String.ofList_append, ← hcut.text, String.ofList_toList]
    · rw [String.toList_ofList, hcut.lines]
    · rw [String.toList_ofList, headerLines, hcut.lines, headerLines, List.takeWhile_idem]
    · rw [String.toList_append, String.toList_ofList]
      exact hcut.below (fun h => hrest (by rw [h])) rest'.toList hrest'

/-- A header with a carriage return, a comment of blanks alone and zeros in front of the exit
code; the comments below its first other line are not read, and neither are those of another
body. -/
theorem Header.parse_eq_iff_reads_blankComment :
    Header.Reads (headerLines "// a\r\n//\t\n// 007\nprint 1; // 2\n".toList)
      (.ok ⟨["a", ""], 7⟩) ∧
    ∃ front rest : String, "// a\r\n//\t\n// 007\nprint 1; // 2\n" = front ++ rest ∧ rest ≠ "" ∧
      ¬ "//".toList <+: "\n// 1\n".toList ∧
      Header.parse (front ++ "\n// 1\n") = .ok ⟨["a", ""], 7⟩ := by
  have hparse : Header.parse "// a\r\n//\t\n// 007\nprint 1; // 2\n" = .ok ⟨["a", ""], 7⟩ := by
    decide
  obtain ⟨hreads, front, rest, hcut, hlines, -, hbelow⟩ :=
    Header.parse_eq_iff_reads "// a\r\n//\t\n// 007\nprint 1; // 2\n"
  have hrest : rest ≠ "" := by
    rintro rfl
    rw [String.append_empty] at hcut
    rw [← hcut] at hlines
    exact absurd hlines (by decide)
  have hbody : ¬ "//".toList <+: "\n// 1\n".toList := by decide
  exact ⟨(hreads _).mp hparse, front, rest, hcut, hrest, hbody,
    (hbelow hrest _ hbody).trans hparse⟩

end TreeSmith.Suite
