import Mathlib.Data.List.DropRight
import TreeSmith.Proofs.HeaderGrammar

/-!
# The lines of a run

The two outputs of a run are put one right after the other and then cut into lines.  What
the first output says after its last line feed and what the second says before its first
one are on one line, so that the lines of the outputs are those of both, one after the
other, exactly when one of these two pieces is blank.

The lines that are collected are never empty.  A header may ask for an empty line all the
same: a comment of blanks alone is no bare comment, and says an empty line of output.  A
header that is read is met by some run exactly when it has no such comment, and its exit
code is one that a run can have.

## Main definitions

* `Text.openLine`, `Text.firstLine` — the pieces of a text at its end and at its start.

## Main results

* `Text.exists_significantLines_append` — two texts share one line.
* `collectedLines_eq_append_iff` — **when the lines of two outputs are kept apart**, and
  what becomes of them otherwise.
* `Header.output_of_parse` — what a header that is read asks for.
* `Header.met_by_some_run_iff` — **which headers some run meets.**
-/

namespace TreeSmith

namespace Text

/-! ### The line that two texts share -/

/-- What a text says after its last line feed. -/
def openLine (s : String) : String :=
  String.ofList (s.toList.rtakeWhile (· != '\n'))

/-- What a text says before its first line feed. -/
def firstLine (s : String) : String :=
  String.ofList (s.toList.takeWhile (· != '\n'))

theorem notMem_openLine (s : String) : '\n' ∉ (openLine s).toList := by
  rw [openLine, String.toList_ofList]
  intro h
  simpa using List.mem_rtakeWhile_imp h

theorem notMem_firstLine (s : String) : '\n' ∉ (firstLine s).toList := by
  rw [firstLine, String.toList_ofList]
  intro h
  simpa using List.mem_takeWhile_imp h

theorem ne_feed_of_notMem {cs : List Char} (h : '\n' ∉ cs) : ∀ c ∈ cs, (c != '\n') = true := by
  intro c hc
  exact bne_iff_ne.mpr fun hfeed => h (hfeed ▸ hc)

theorem eq_firstLine_or (s : String) :
    s = firstLine s ∨ ∃ rest, s = firstLine s ++ "\n" ++ rest := by
  by_cases hfeed : '\n' ∈ s.toList
  · obtain ⟨first, rest, hs, hfirst⟩ := List.eq_append_cons_of_mem hfeed
    refine .inr ⟨String.ofList rest, String.toList_inj.mp ?_⟩
    rw [firstLine, hs, List.takeWhile_append_of_pos (ne_feed_of_notMem hfirst)]
    simp
  · refine .inl (String.toList_inj.mp ?_)
    rw [firstLine, String.toList_ofList,
      List.takeWhile_eq_self_iff.mpr (ne_feed_of_notMem hfeed)]

theorem eq_openLine_or (s : String) :
    s = openLine s ∨ ∃ front, s = front ++ "\n" ++ openLine s := by
  by_cases hfeed : '\n' ∈ s.toList
  · -- the last line feed of a text is the first one of the reversed text
    obtain ⟨last, front, hs, hlast⟩ := List.eq_append_cons_of_mem (List.mem_reverse.mpr hfeed)
    have hcut : s.toList = front.reverse ++ '\n' :: last.reverse := by
      rw [← List.reverse_reverse s.toList, hs]
      simp
    refine .inr ⟨String.ofList front.reverse, String.toList_inj.mp ?_⟩
    rw [openLine, List.rtakeWhile, hs, List.takeWhile_append_of_pos (ne_feed_of_notMem hlast)]
    simp [hcut]
  · refine .inl (String.toList_inj.mp ?_)
    rw [openLine, String.toList_ofList,
      List.rtakeWhile_eq_self_iff.mpr (ne_feed_of_notMem hfeed)]

/-- Only what a text says after its last line feed goes on in the next text. -/
theorem exists_lines_before (s : String) :
    ∃ before, ∀ t, significantLines (s ++ t) = before ++ significantLines (openLine s ++ t) := by
  rcases eq_openLine_or s with hs | ⟨front, hs⟩
  · exact ⟨[], fun t => by rw [← hs, List.nil_append]⟩
  · refine ⟨significantLines front, fun t => ?_⟩
    have hcut : s ++ t = front ++ "\n" ++ (openLine s ++ t) := by
      rw [← String.append_assoc, ← hs]
    rw [hcut, significantLines_append_line]

/-- A text goes on up to the first line feed of the next one. -/
theorem exists_lines_after (t : String) :
    ∃ after, ∀ s, significantLines (s ++ t) = significantLines (s ++ firstLine t) ++ after := by
  rcases eq_firstLine_or t with ht | ⟨rest, ht⟩
  · exact ⟨[], fun s => by rw [← ht, List.append_nil]⟩
  · refine ⟨significantLines rest, fun s => ?_⟩
    have hcut : s ++ t = s ++ firstLine t ++ "\n" ++ rest := by
      calc s ++ t = s ++ (firstLine t ++ "\n" ++ rest) := by rw [← ht]
        _ = s ++ firstLine t ++ "\n" ++ rest := by simp only [String.append_assoc]
    rw [hcut, significantLines_append_line]

/-- **Two texts share one line**, and say the others as they do alone. -/
theorem exists_significantLines_append (s t : String) :
    ∃ before after, significantLines s = before ++ significantLines (openLine s) ∧
      significantLines t = significantLines (firstLine t) ++ after ∧
      significantLines (s ++ t) =
        before ++ significantLines (openLine s ++ firstLine t) ++ after := by
  obtain ⟨before, hbefore⟩ := exists_lines_before s
  obtain ⟨after, hafter⟩ := exists_lines_after t
  refine ⟨before, after, ?_, ?_, ?_⟩
  · simpa using hbefore ""
  · simpa using hafter ""
  · rw [hbefore, hafter, List.append_assoc]

/-- A text without a line feed says one line, unless it is blank. -/
theorem significantLines_of_notMem {s : String} (h : '\n' ∉ s.toList) :
    significantLines s = if trimmed s = "" then [] else [trimmed s] := by
  rw [significantLines, splitOn_of_notMem h, trimmed]
  by_cases hblank : trim s.toList = [] <;> simp [hblank]

theorem trimmed_eq_empty_iff {s : String} : trimmed s = "" ↔ ∀ c ∈ s.toList, isBlank c = true := by
  rw [trimmed, String.ofList_eq_empty_iff, trim_eq_nil_iff]

theorem trimmed_append_of_left {s : String} (h : trimmed s = "") (t : String) :
    trimmed (s ++ t) = trimmed t := by
  rw [trimmed, String.toList_append, trim_append_of_isBlank (trimmed_eq_empty_iff.mp h), trimmed]

theorem trimmed_append_of_right {t : String} (h : trimmed t = "") (s : String) :
    trimmed (s ++ t) = trimmed s := by
  rw [trimmed, String.toList_append, trim_append_of_isBlank_right (trimmed_eq_empty_iff.mp h),
    trimmed]

theorem trimmed_append_ne_empty {s : String} (h : trimmed s ≠ "") (t : String) :
    trimmed (s ++ t) ≠ "" := by
  intro hblank
  refine h (trimmed_eq_empty_iff.mpr fun c hc => trimmed_eq_empty_iff.mp hblank c ?_)
  rw [String.toList_append]
  exact List.mem_append_left _ hc

theorem ne_empty_of_mem_significantLines {s l : String} (h : l ∈ significantLines s) : l ≠ "" := by
  obtain ⟨line, -, hline⟩ := List.mem_filterMap.mp h
  split at hline
  · cases hline
  · next hne =>
    obtain rfl := Option.some.inj hline
    exact fun hempty => hne (String.ofList_eq_empty_iff.mp hempty)

end Text

namespace Suite

open Text

/-! ### Two outputs -/

/-- **When the lines of two outputs are kept apart.**  The lines that are collected are those
of the first output and then those of the second exactly when what the first says after its
last line feed, or what the second says before its first one, is blank.  Otherwise the last
line of the first output and the first line of the second are collected as one. -/
theorem collectedLines_eq_append_iff (stdout stderr : String) :
    (collectedLines stdout stderr = significantLines stdout ++ significantLines stderr ↔
      trimmed (openLine stdout) = "" ∨ trimmed (firstLine stderr) = "") ∧
    (trimmed (openLine stdout) ≠ "" → trimmed (firstLine stderr) ≠ "" →
      ∃ before after, significantLines stdout = before ++ [trimmed (openLine stdout)] ∧
        significantLines stderr = trimmed (firstLine stderr) :: after ∧
        collectedLines stdout stderr =
          before ++ trimmed (openLine stdout ++ firstLine stderr) :: after) := by
  obtain ⟨before, after, hout, herr, hboth⟩ := exists_significantLines_append stdout stderr
  have hshared : '\n' ∉ (openLine stdout ++ firstLine stderr).toList := by
    rw [String.toList_append, List.mem_append, not_or]
    exact ⟨notMem_openLine stdout, notMem_firstLine stderr⟩
  rw [significantLines_of_notMem (notMem_openLine stdout)] at hout
  rw [significantLines_of_notMem (notMem_firstLine stderr)] at herr
  rw [significantLines_of_notMem hshared] at hboth
  rw [collectedLines, hboth, hout, herr]
  by_cases hopen : trimmed (openLine stdout) = ""
  · rw [trimmed_append_of_left hopen]
    simp [hopen]
  by_cases hfirst : trimmed (firstLine stderr) = ""
  · rw [trimmed_append_of_right hfirst]
    simp [hopen, hfirst]
  -- both pieces say something, and what they say together is one line instead of two
  rw [if_neg hopen, if_neg hfirst, if_neg (trimmed_append_ne_empty hopen _)]
  refine ⟨⟨fun h => ?_, ?_⟩, fun _ _ => ⟨before, after, rfl, rfl, by simp⟩⟩
  · have hlength := congrArg List.length h
    simp only [List.length_append, List.length_singleton] at hlength
    omega
  · rintro (h | h)
    · exact absurd h hopen
    · exact absurd h hfirst

/-- A last line without a line feed is joined with the first line about errors, and the lines
around them stay; with a line feed the outputs are kept apart. -/
theorem collectedLines_eq_append_iff_openLine :
    trimmed (openLine "a\nout ") ≠ "" ∧ trimmed (firstLine " err\nb") ≠ "" ∧
    (∃ before after, significantLines "a\nout " = before ++ ["out"] ∧
      significantLines " err\nb" = "err" :: after ∧
      collectedLines "a\nout " " err\nb" = before ++ "out  err" :: after) ∧
    collectedLines "out\n" "err" = significantLines "out\n" ++ significantLines "err" := by
  have hopen : trimmed (openLine "a\nout ") ≠ "" := by decide
  have hfirst : trimmed (firstLine " err\nb") ≠ "" := by decide
  exact ⟨hopen, hfirst, (collectedLines_eq_append_iff _ _).2 hopen hfirst,
    (collectedLines_eq_append_iff _ _).1.mpr (.inl (by decide))⟩

/-- **The lines of two outputs are not always kept apart.** -/
theorem not_forall_collectedLines_eq_append :
    ¬ ∀ stdout stderr : String,
      collectedLines stdout stderr = significantLines stdout ++ significantLines stderr := by
  intro h
  exact absurd (h "out" "err\n") (by decide)

/-! ### Headers that a run can meet -/

/-- A status that is not below zero is that of a byte. -/
theorem Ending.le_of_status_eq {e : Ending} {n : Nat} (h : e.status = n) : n ≤ 255 := by
  cases e with
  | code code =>
    rw [Ending.status] at h
    have := code.toNat_lt
    omega
  | signal number =>
    rw [Ending.status] at h
    omega

namespace Header

variable {source : String} {h : Header}

/-- A header that is read asks for what its comments before the last say without the blanks
around it, and for an exit code of 31 bits. -/
theorem output_of_parse (hparse : Header.parse source = .ok h) :
    h.output = (headerLines source.toList).dropLast.map
        (fun line => trimmed (String.ofList (line.drop 2))) ∧
      h.status ≤ 2147483647 := by
  have hreads := Header.reads_parse source
  rw [hparse] at hreads
  cases hreads with
  | header hlast hbare hstatus =>
    obtain ⟨spaces, digits, -, -, -, -, hmax⟩ := hstatus
    exact ⟨rfl, hmax⟩

/-- The lines that a header asks for have no blanks at their ends and no line feeds, so that
they are plain unless they are empty. -/
theorem isPlainLine_of_mem_output (hparse : Header.parse source = .ok h) {l : String}
    (hl : l ∈ h.output) (hne : l ≠ "") : IsPlainLine l := by
  rw [(output_of_parse hparse).1] at hl
  obtain ⟨line, hline, rfl⟩ := List.mem_map.mp hl
  refine ⟨hne, fun hfeed => ?_, ?_⟩
  · rw [trimmed, String.toList_ofList, String.toList_ofList] at hfeed
    have hmem : line ∈ lines source.toList :=
      (List.takeWhile_prefix _).subset ((List.dropLast_prefix _).subset hline)
    exact notMem_of_mem_lines hmem (List.mem_of_mem_drop (mem_of_mem_trim hfeed))
  · rw [trimmed, trimmed, String.toList_ofList, trim_trim]

/-- A header asks for an empty line just if one of its comments before the last is blank. -/
theorem forall_ne_empty_iff (hparse : Header.parse source = .ok h) :
    (∀ l ∈ h.output, l ≠ "") ↔
      ∀ line ∈ (headerLines source.toList).dropLast, ∃ c ∈ line.drop 2, isBlank c = false := by
  rw [(output_of_parse hparse).1, List.forall_mem_map]
  refine forall₂_congr fun line _ => ?_
  rw [ne_eq, trimmed_eq_empty_iff, String.toList_ofList]
  simp

/-- The run that writes plain lines one by one collects them. -/
theorem collectedLines_join {ls : List String} (hls : ∀ l ∈ ls, IsPlainLine l) :
    collectedLines (lossyText (String.join (ls.map (· ++ "\n"))).toUTF8)
      (lossyText ByteArray.empty) = ls := by
  have hempty : lossyText ByteArray.empty = "" := lossyText_toUTF8 ""
  rw [lossyText_toUTF8, hempty, collectedLines_empty, significantLines_join hls]

/-- No run collects an empty line. -/
theorem ne_empty_of_isMetBy {stdout stderr : String} {status : Int}
    (hmet : h.isMetBy ⟨collectedLines stdout stderr, status⟩ false = true) :
    ∀ l ∈ h.output, l ≠ "" := by
  intro l hl
  rw [← ((h.isMetBy_iff _).mp hmet).1] at hl
  exact ne_empty_of_mem_significantLines hl

/-- **Which headers some run meets.**  A header that is read is met by some outputs and some
exit code of 32 bits exactly when none of its comments before the last is blank, and by some
run on a system with exit codes of a byte exactly when, besides, its exit code is one.  Of
the lines that it asks for, the empty ones are never collected, and all others can be. -/
theorem met_by_some_run_iff (hparse : Header.parse source = .ok h) :
    ((∃ (stdout stderr : ByteArray) (code : Int32),
        h.isMetBy ⟨collectedLines (lossyText stdout) (lossyText stderr), code.toInt⟩ false = true) ↔
      ∀ line ∈ (headerLines source.toList).dropLast, ∃ c ∈ line.drop 2, isBlank c = false) ∧
    ((∃ e : Execution, h.isMetBy e.outcome false = true) ↔
      (∀ line ∈ (headerLines source.toList).dropLast, ∃ c ∈ line.drop 2, isBlank c = false) ∧
        h.status ≤ 255) ∧
    ∀ l ∈ h.output, (∃ stdout stderr : ByteArray,
      l ∈ collectedLines (lossyText stdout) (lossyText stderr)) ↔ l ≠ "" := by
  rw [← forall_ne_empty_iff hparse]
  have hplain : ∀ l ∈ h.output, l ≠ "" → IsPlainLine l := fun l =>
    isPlainLine_of_mem_output hparse
  refine ⟨⟨?_, fun hne => ?_⟩, ⟨?_, ?_⟩, fun l hl => ⟨?_, fun hne => ?_⟩⟩
  · rintro ⟨stdout, stderr, code, hmet⟩
    exact ne_empty_of_isMetBy hmet
  · have hstatus : (Int32.ofNat h.status).toInt = h.status :=
      Int32.toInt_ofNat_of_lt (Nat.lt_succ_of_le (output_of_parse hparse).2)
    refine ⟨_, _, Int32.ofNat h.status, (h.isMetBy_iff _).mpr
      ⟨collectedLines_join fun l hl => hplain l hl (hne l hl), hstatus⟩⟩
  · rintro ⟨e, hmet⟩
    exact ⟨ne_empty_of_isMetBy hmet, Ending.le_of_status_eq ((h.isMetBy_iff _).mp hmet).2⟩
  · rintro ⟨hne, hbyte⟩
    have hcode : (UInt8.ofNat h.status).toNat = h.status :=
      UInt8.toNat_ofNat_of_lt' (Nat.lt_succ_of_le hbyte)
    refine ⟨⟨_, _, .code (UInt8.ofNat h.status), 0⟩, (h.isMetBy_iff _).mpr
      ⟨collectedLines_join fun l hl => hplain l hl (hne l hl), ?_⟩⟩
    exact congrArg Nat.cast hcode
  · rintro ⟨stdout, stderr, hmem⟩
    exact ne_empty_of_mem_significantLines hmem
  · have hsaid := collectedLines_join (List.forall_mem_singleton.mpr (hplain l hl hne))
    exact ⟨_, _, (congrArg (l ∈ ·) hsaid).mpr (List.mem_singleton_self l)⟩

/-- A header with two lines of output, one of them between blanks, and the exit code of a
byte. -/
theorem met_by_some_run_iff_twoLines :
    Header.parse "// 4\n//\ta b \n// 70\nprint 4;\n" = .ok ⟨["4", "a b"], 70⟩ ∧
    (∃ e : Execution, Header.isMetBy ⟨["4", "a b"], 70⟩ e.outcome false = true) ∧
    ∃ stdout stderr : ByteArray, "a b" ∈ collectedLines (lossyText stdout) (lossyText stderr) := by
  have hparse : Header.parse "// 4\n//\ta b \n// 70\nprint 4;\n" = .ok ⟨["4", "a b"], 70⟩ := by
    decide
  have hblank := (forall_ne_empty_iff hparse).mp (by simp)
  obtain ⟨-, hrun, hline⟩ := met_by_some_run_iff hparse
  exact ⟨hparse, hrun.mpr ⟨hblank, by decide⟩, (hline "a b" (by decide)).mpr (by decide)⟩

/-- **Not every header that is read can be met**: a comment of a blank asks for an empty line. -/
theorem not_forall_met_by_some_run :
    ¬ ∀ (source : String) (h : Header), Header.parse source = .ok h →
        ∃ (stdout stderr : ByteArray) (code : Int32),
          h.isMetBy ⟨collectedLines (lossyText stdout) (lossyText stderr), code.toInt⟩ false
            = true := by
  intro hall
  have hparse : Header.parse "// \n// 0\n" = .ok ⟨[""], 0⟩ := by decide
  obtain ⟨stdout, stderr, code, hmet⟩ := hall _ _ hparse
  exact ne_empty_of_isMetBy hmet "" List.mem_cons_self rfl

end Header

end Suite

end TreeSmith
