import TreeSmith.Text.Lines

/-!
# Cutting a text into lines

A line that is ended by a line feed is cut off whole, whichever of the two splitters
does it: one drops a carriage return before the line feed, the other trims every piece
and leaves out the blank ones.  So a line that is not empty, holds no line feed and has
no blanks at its ends comes back unchanged from both of them.

## Main definitions

* `Text.IsPlainLine` — such a line.

## Main results

* `Text.trim_eq_nil_iff` — which texts are blank, and so trimmed to nothing.
* `Text.line_induction` — a text is a last line, or a line and the text below it.
* `Text.lines_append_cons` — the first of the lines of a text.
* `Text.significantLines_append_line` — lines that say something, on both sides of a
  line feed.
* `Text.significantLines_join` — plain lines are the lines that their text says.
-/

namespace TreeSmith

namespace Text

/-! ### Cutting at a character -/

theorem splitOn_ne_nil (sep : Char) (cs : List Char) : splitOn sep cs ≠ [] := by
  cases cs with
  | nil => simp [splitOn]
  | cons c cs =>
    simp only [splitOn]
    split
    · simp
    · split <;> simp

theorem splitOn_of_notMem {sep : Char} {cs : List Char} (h : sep ∉ cs) :
    splitOn sep cs = [cs] := by
  induction cs with
  | nil => rfl
  | cons c cs ih =>
    rw [List.mem_cons, not_or] at h
    simp [splitOn, ih h.2, Ne.symm h.1]

/-- The pieces on both sides of a separator are cut independently. -/
theorem splitOn_append_cons (sep : Char) (as bs : List Char) :
    splitOn sep (as ++ sep :: bs) = splitOn sep as ++ splitOn sep bs := by
  induction as with
  | nil =>
    obtain ⟨piece, pieces, h⟩ := List.exists_cons_of_ne_nil (splitOn_ne_nil sep bs)
    simp [splitOn, h]
  | cons c as ih =>
    obtain ⟨piece, pieces, h⟩ := List.exists_cons_of_ne_nil (splitOn_ne_nil sep as)
    simp only [List.cons_append, splitOn, ih, h]
    split <;> rfl

theorem split_of_notMem {sep : Char} {s : String} (h : sep ∉ s.toList) : split sep s = [s] := by
  simp [split, splitOn_of_notMem h]

theorem split_append_cons (sep : Char) (s t : List Char) :
    split sep (String.ofList (s ++ sep :: t)) =
      split sep (String.ofList s) ++ split sep (String.ofList t) := by
  simp [split, splitOn_append_cons]

/-! ### Blanks at the ends -/

theorem trim_cons_of_isBlank {c : Char} (hc : isBlank c = true) (cs : List Char) :
    trim (c :: cs) = trim cs := by
  rw [trim, trimStart, List.dropWhile_cons_of_pos hc, ← trimStart, ← trim]

/-- Nothing that has been trimmed ends in a blank. -/
theorem isBlank_of_getLast?_trim {cs : List Char} {c : Char} (h : (trim cs).getLast? = some c) :
    isBlank c = false := by
  rw [trim, trimEnd, List.getLast?_reverse] at h
  have hhead := List.head?_dropWhile_not isBlank (trimStart cs).reverse
  rwa [h] at hhead

theorem trim_append_of_isBlank {front : List Char} (hfront : ∀ c ∈ front, isBlank c = true)
    (cs : List Char) : trim (front ++ cs) = trim cs := by
  rw [trim, trimStart, List.dropWhile_append_of_pos hfront, ← trimStart, ← trim]

theorem trimEnd_append_of_isBlank {back : List Char} (hback : ∀ c ∈ back, isBlank c = true)
    (cs : List Char) : trimEnd (cs ++ back) = trimEnd cs := by
  rw [trimEnd, List.reverse_append, List.dropWhile_append_of_pos, ← trimEnd]
  exact fun c hc => hback c (List.mem_reverse.mp hc)

/-- A text is what is left of it between blanks. -/
theorem exists_trim_between (cs : List Char) :
    ∃ front back, (∀ c ∈ front, isBlank c = true) ∧ (∀ c ∈ back, isBlank c = true) ∧
      cs = front ++ trim cs ++ back := by
  refine ⟨cs.takeWhile isBlank, ((trimStart cs).reverse.takeWhile isBlank).reverse, ?_, ?_, ?_⟩
  · exact List.all_eq_true.mp List.all_takeWhile
  · intro c hc
    exact List.all_eq_true.mp List.all_takeWhile c (List.mem_reverse.mp hc)
  · rw [trim, trimEnd, List.append_assoc, ← List.reverse_append, List.takeWhile_append_dropWhile,
      List.reverse_reverse, trimStart, List.takeWhile_append_dropWhile]

theorem trim_eq_nil_iff {cs : List Char} : trim cs = [] ↔ ∀ c ∈ cs, isBlank c = true := by
  constructor
  · intro h
    obtain ⟨front, back, hfront, hback, hcs⟩ := exists_trim_between cs
    rw [h, List.append_nil] at hcs
    rw [hcs]
    intro c hc
    exact (List.mem_append.mp hc).elim (hfront c) (hback c)
  · intro h
    have hall := trim_append_of_isBlank h []
    rwa [List.append_nil] at hall

/-- Blanks at the end play no part, even when nothing else is there. -/
theorem trim_append_of_isBlank_right {back : List Char} (hback : ∀ c ∈ back, isBlank c = true)
    (cs : List Char) : trim (cs ++ back) = trim cs := by
  by_cases hcs : ∀ c ∈ cs, isBlank c = true
  · rw [trim_append_of_isBlank hcs, trim_eq_nil_iff.mpr hback, trim_eq_nil_iff.mpr hcs]
  · have hstart : trimStart (cs ++ back) = trimStart cs ++ back := by
      rw [trimStart, List.dropWhile_append, if_neg]
      · rfl
      · rw [List.isEmpty_iff]
        intro hnil
        refine hcs (trim_eq_nil_iff.mp ?_)
        rw [trim, trimStart, hnil]
        rfl
    rw [trim, hstart, trimEnd_append_of_isBlank hback, ← trim]

theorem trim_trim (cs : List Char) : trim (trim cs) = trim cs := by
  obtain ⟨front, back, hfront, hback, hcs⟩ := exists_trim_between cs
  have htrim : trim (front ++ trim cs ++ back) = trim (trim cs) := by
    rw [trim_append_of_isBlank_right hback, trim_append_of_isBlank hfront]
  rwa [← hcs, eq_comm] at htrim

theorem mem_of_mem_trim {cs : List Char} {c : Char} (h : c ∈ trim cs) : c ∈ cs := by
  obtain ⟨front, back, -, -, hcs⟩ := exists_trim_between cs
  rw [hcs]
  exact List.mem_append_left _ (List.mem_append_right _ h)

theorem trim_eq_self {cs : List Char} (h : ∀ c ∈ cs, isBlank c = false) : trim cs = cs := by
  have hself : ∀ ds : List Char, (∀ c ∈ ds, isBlank c = false) → ds.dropWhile isBlank = ds := by
    intro ds hds
    cases ds with
    | nil => rfl
    | cons d ds => exact List.dropWhile_cons_of_neg (by simp [hds d List.mem_cons_self])
  rw [trim, trimStart, hself cs h, trimEnd,
    hself cs.reverse fun c hc => h c (List.mem_reverse.mp hc), List.reverse_reverse]

/-! ### Plain lines -/

/-- The text is a line that says something and has no blanks at its ends. -/
structure IsPlainLine (l : String) : Prop where
  /-- It is not empty. -/
  ne_empty : l ≠ ""
  /-- It is a single line. -/
  notMem : '\n' ∉ l.toList
  /-- It has no blanks at its ends. -/
  trimmed_eq : trimmed l = l

theorem IsPlainLine.trim_eq {l : String} (hl : IsPlainLine l) : trim l.toList = l.toList := by
  have h : (trimmed l).toList = l.toList := congrArg String.toList hl.trimmed_eq
  rwa [trimmed, String.toList_ofList] at h

theorem IsPlainLine.toList_ne_nil {l : String} (hl : IsPlainLine l) : l.toList ≠ [] :=
  fun h => hl.ne_empty (String.toList_eq_nil_iff.mp h)

theorem dropReturn_eq_self {line : List Char} (h : line.getLast? ≠ some '\r') :
    dropReturn line = line :=
  if_neg h

theorem dropReturn_prefix (line : List Char) : dropReturn line <+: line := by
  unfold dropReturn
  split
  · exact List.dropLast_prefix line
  · exact List.prefix_rfl

/-- Text in front of a plain line leaves its end as it is, so no carriage return is
dropped there. -/
theorem IsPlainLine.dropReturn_append {l : String} (hl : IsPlainLine l) (front : List Char) :
    dropReturn (front ++ l.toList) = front ++ l.toList := by
  refine dropReturn_eq_self fun hlast => ?_
  rw [List.getLast?_append, List.getLast?_eq_some_getLast hl.toList_ne_nil, Option.some_or,
    ← List.getLast?_eq_some_getLast, ← hl.trim_eq] at hlast
  have hblank : isBlank '\r' = false := isBlank_of_getLast?_trim hlast
  exact absurd hblank (by decide)

/-! ### Lines -/

theorem endedLines_cons (line : List Char) {pieces : List (List Char)} (h : pieces ≠ []) :
    endedLines (line :: pieces) = dropReturn line :: endedLines pieces := by
  obtain ⟨next, more, rfl⟩ := List.exists_cons_of_ne_nil h
  rfl

/-- Texts one line after the other: a text without a line feed, and a line with its line feed
in front of a text. -/
theorem line_induction {motive : List Char → Prop} (last : ∀ cs, '\n' ∉ cs → motive cs)
    (line : ∀ first rest, '\n' ∉ first → motive rest → motive (first ++ '\n' :: rest))
    (cs : List Char) : motive cs := by
  -- what has been read of the first line is carried along
  suffices h : ∀ read, '\n' ∉ read → motive (read ++ cs) from h [] List.not_mem_nil
  induction cs with
  | nil =>
    intro read hread
    rw [List.append_nil]
    exact last read hread
  | cons c cs ih =>
    intro read hread
    by_cases hc : c = '\n'
    · rw [hc]
      exact line read cs hread (ih [] List.not_mem_nil)
    · rw [List.append_cons]
      exact ih (read ++ [c]) (by simp [hread, Ne.symm hc])

/-- A text without a line feed is one line, unless it is empty. -/
theorem lines_of_notMem {cs : List Char} (h : '\n' ∉ cs) :
    lines cs = if cs = [] then [] else [cs] := by
  rw [lines, splitOn_of_notMem h, endedLines]

/-- What stands before the first line feed is the first line. -/
theorem lines_append_cons {line : List Char} (h : '\n' ∉ line) (rest : List Char) :
    lines (line ++ '\n' :: rest) = dropReturn line :: lines rest := by
  rw [lines, splitOn_append_cons, splitOn_of_notMem h]
  exact endedLines_cons line (splitOn_ne_nil _ _)

/-- No line holds a line feed. -/
theorem notMem_of_mem_lines {cs line : List Char} (h : line ∈ lines cs) : '\n' ∉ line := by
  induction cs using line_induction with
  | last cs hfeed =>
    rw [lines_of_notMem hfeed] at h
    split at h
    · cases h
    · rwa [List.mem_singleton.mp h]
  | line first rest hfeed ih =>
    rw [lines_append_cons hfeed] at h
    rcases List.mem_cons.mp h with rfl | h
    · have hsub := List.IsPrefix.subset <| dropReturn_prefix first
      exact fun hmem => hfeed (hsub hmem)
    · exact ih h

theorem prefix_of_splitOn_eq_cons {sep : Char} {cs piece : List Char} {pieces : List (List Char)}
    (h : splitOn sep cs = piece :: pieces) : piece <+: cs := by
  induction cs generalizing piece pieces with
  | nil =>
    cases h
    exact List.prefix_rfl
  | cons c cs ih =>
    obtain ⟨first, more, hfirst⟩ := List.exists_cons_of_ne_nil (splitOn_ne_nil sep cs)
    simp only [splitOn, hfirst] at h
    split at h
    · cases h
      exact List.nil_prefix
    · cases h
      exact List.cons_prefix_cons.mpr ⟨rfl, ih hfirst⟩

/-- A text starts with its first line. -/
theorem prefix_of_lines_eq_cons {cs line : List Char} {more : List (List Char)}
    (h : lines cs = line :: more) : line <+: cs := by
  obtain ⟨piece, pieces, hpieces⟩ := List.exists_cons_of_ne_nil (splitOn_ne_nil '\n' cs)
  refine List.IsPrefix.trans ?_ (prefix_of_splitOn_eq_cons hpieces)
  rw [lines, hpieces] at h
  cases pieces with
  | nil =>
    simp only [endedLines] at h
    split at h
    · cases h
    · cases h
      exact List.prefix_rfl
  | cons next more =>
    rw [endedLines_cons piece (List.cons_ne_nil next more)] at h
    cases h
    exact dropReturn_prefix piece

/-- The lines on both sides of a line feed are found independently. -/
theorem significantLines_append_line (s t : String) :
    significantLines (s ++ "\n" ++ t) = significantLines s ++ significantLines t := by
  have hcut : (s ++ "\n" ++ t).toList = s.toList ++ '\n' :: t.toList := by simp
  rw [significantLines, hcut, splitOn_append_cons, List.map_append, List.filterMap_append]
  rfl

theorem IsPlainLine.significantLines_eq {l : String} (hl : IsPlainLine l) :
    significantLines l = [l] := by
  rw [significantLines, splitOn_of_notMem hl.notMem, List.map_singleton, hl.trim_eq]
  simp [hl.ne_empty]

/-- Plain lines, each ended by a line feed, are the lines that their text says. -/
theorem significantLines_join {ls : List String} (hls : ∀ l ∈ ls, IsPlainLine l) :
    significantLines (String.join (ls.map (· ++ "\n"))) = ls := by
  induction ls with
  | nil => rfl
  | cons l ls ih =>
    rw [List.map_cons, String.join_cons, significantLines_append_line,
      (hls l List.mem_cons_self).significantLines_eq, List.singleton_append,
      ih fun l' hl' => hls l' (List.mem_cons_of_mem l hl')]

end Text

end TreeSmith
