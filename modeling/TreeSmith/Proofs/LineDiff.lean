import TreeSmith.Diff.Lines
import TreeSmith.Proofs.EditScripts

/-!
# What a line diff says

The lines of a text keep their terminators, so the text is the lines joined.  A diff
prints the changed lines behind a sign, each completed by a line feed.  A line has one
terminator, at its end, and a completed line too; so the diff, cut into lines in the same
way, gives the changed lines back, and what is proved of the edit script can be said of
the printed text.

## Main definitions

* `Text.completed` — a line with a line feed at its end.
* `linesWith` — the changed lines with one sign.
* `signedLines` — the lines of a diff with one sign, without it.
* `Explains` — a diff accounts for every line of two texts.

## Main results

* `Text.flatten_terminatedLines` — a text is its lines joined.
* `Text.terminatedLines_append` — a line with a line feed at its end is cut off whole.
* `exists_changes` — what is printed for a script.
* `explains_changeText` — the diff of any script between the lines of two texts.
* `lineDiff_explains` — **a line diff accounts for every line of both texts, and is empty
  just if they are equal.**
-/

namespace TreeSmith

namespace Text

/-! ### Lines with their terminators -/

theorem flatten_terminatedLines (cs : List Char) : (terminatedLines cs).flatten = cs := by
  fun_induction terminatedLines cs with
  | case1 => rfl
  | case2 cs ih => simp [ih]
  | case3 cs ih => simp [ih]
  | case4 cs _ ih => simp [ih]
  | case5 c cs _ _ _ h ih =>
    rw [h] at ih
    simp [← ih]
  | case6 c cs _ _ _ line more h ih =>
    rw [h] at ih
    simp [← ih]

/-- A text is determined by its lines. -/
theorem terminatedLines_inj {cs ds : List Char} (h : terminatedLines cs = terminatedLines ds) :
    cs = ds := by
  rw [← flatten_terminatedLines cs, h, flatten_terminatedLines]

/-- No line ends inside the text. -/
def IsInLine (cs : List Char) : Prop :=
  ∀ c ∈ cs, c ≠ '\n' ∧ c ≠ '\r'

/-- The ways in which a line ends. -/
def lineEndings : List (List Char) :=
  [[], ['\n'], ['\r'], ['\r', '\n']]

/-- A line has one terminator, at its end. -/
theorem exists_ending_of_mem {cs line : List Char} (h : line ∈ terminatedLines cs) :
    ∃ content ending, line = content ++ ending ∧ IsInLine content ∧ ending ∈ lineEndings := by
  fun_induction terminatedLines cs generalizing line with
  | case1 => cases h
  | case2 cs ih =>
    rcases List.mem_cons.mp h with rfl | h
    · exact ⟨[], ['\n'], rfl, nofun, by simp [lineEndings]⟩
    · exact ih h
  | case3 cs ih =>
    rcases List.mem_cons.mp h with rfl | h
    · exact ⟨[], ['\r', '\n'], rfl, nofun, by simp [lineEndings]⟩
    · exact ih h
  | case4 cs _ ih =>
    rcases List.mem_cons.mp h with rfl | h
    · exact ⟨[], ['\r'], rfl, nofun, by simp [lineEndings]⟩
    · exact ih h
  | case5 c cs hfeed _ hreturn hnil ih =>
    obtain rfl := List.mem_singleton.mp h
    refine ⟨[c], [], rfl, ?_, by simp [lineEndings]⟩
    intro d hd
    rw [List.mem_singleton.mp hd]
    exact ⟨hfeed, hreturn⟩
  | case6 c cs hfeed _ hreturn first more hlines ih =>
    rw [hlines] at ih
    rcases List.mem_cons.mp h with rfl | h
    · obtain ⟨content, ending, hfirst, hcontent, hending⟩ := ih List.mem_cons_self
      refine ⟨c :: content, ending, by rw [hfirst]; rfl, ?_, hending⟩
      exact List.forall_mem_cons.mpr ⟨⟨hfeed, hreturn⟩, hcontent⟩
    · exact ih (List.mem_cons_of_mem _ h)

/-- A line with a line feed at its end, which is added if there is none. -/
def completed (line : List Char) : List Char :=
  line ++ if line.getLast? = some '\n' then [] else ['\n']

/-- A completed line ends in a line feed or in a carriage return and a line feed. -/
theorem exists_completed_eq {cs line : List Char} (h : line ∈ terminatedLines cs) :
    ∃ content ending, completed line = content ++ ending ∧ IsInLine content ∧
      (ending = ['\n'] ∨ ending = ['\r', '\n']) := by
  obtain ⟨content, ending, rfl, hcontent, hending⟩ := exists_ending_of_mem h
  simp only [lineEndings, List.mem_cons, List.not_mem_nil, or_false] at hending
  rcases hending with rfl | rfl | rfl | rfl
  · have hlast : content.getLast? ≠ some '\n' := by
      intro hlast
      exact (hcontent _ (List.mem_of_getLast? hlast)).1 rfl
    exact ⟨content, ['\n'], by simp [completed, hlast], hcontent, .inl rfl⟩
  · exact ⟨content, ['\n'], by simp [completed], hcontent, .inl rfl⟩
  · exact ⟨content, ['\r', '\n'], by simp [completed], hcontent, .inr rfl⟩
  · exact ⟨content, ['\r', '\n'], by simp [completed], hcontent, .inr rfl⟩

/-- A line with a line feed at its end is cut off whole. -/
theorem terminatedLines_append {content ending : List Char} (hcontent : IsInLine content)
    (hending : ending = ['\n'] ∨ ending = ['\r', '\n']) (rest : List Char) :
    terminatedLines (content ++ ending ++ rest) = (content ++ ending) :: terminatedLines rest := by
  induction content with
  | nil => rcases hending with rfl | rfl <;> simp [terminatedLines]
  | cons c content ih =>
    obtain ⟨⟨hfeed, hreturn⟩, hrest⟩ := List.forall_mem_cons.mp hcontent
    simp only [List.cons_append]
    rw [terminatedLines, ih hrest]
    · exact hfeed
    · exact fun _ h => absurd h hreturn
    · exact hreturn

end Text

namespace Diff

open Edit
open Text (terminatedLines completed)

/-! ### The text of a script -/

/-- The changed lines that are printed with a sign. -/
def linesWith (sign : Char) (changes : List (Char × List Char)) : List (List Char) :=
  (changes.filter (·.1 = sign)).map (·.2)

@[simp] theorem linesWith_append (sign : Char) (front back : List (Char × List Char)) :
    linesWith sign (front ++ back) = linesWith sign front ++ linesWith sign back := by
  simp [linesWith]

theorem linesWith_map (sign mark : Char) (lines : List (List Char)) :
    linesWith sign (lines.map (mark, ·)) = if mark = sign then lines else [] := by
  induction lines with
  | nil => simp [linesWith]
  | cons line lines ih =>
    by_cases h : mark = sign
    · simpa [linesWith, h] using ih
    · simp [linesWith, h]

theorem mem_linesWith {changes : List (Char × List Char)} {c : Char × List Char}
    (h : c ∈ changes) : c.2 ∈ linesWith c.1 changes :=
  List.mem_map_of_mem (List.mem_filter.mpr ⟨h, decide_eq_true rfl⟩)

/-- The changes between two kept lines: first those with a minus sign. -/
def flushed (minus plus : List (List Char)) : List (Char × List Char) :=
  minus.map ('-', ·) ++ plus.map ('+', ·)

theorem sign_of_mem_flushed {minus plus : List (List Char)} {c : Char × List Char}
    (h : c ∈ flushed minus plus) : c.1 = '-' ∨ c.1 = '+' := by
  rcases List.mem_append.mp h with h | h
  · obtain ⟨line, -, rfl⟩ := List.mem_map.mp h
    exact .inl rfl
  · obtain ⟨line, -, rfl⟩ := List.mem_map.mp h
    exact .inr rfl

theorem flatMap_flushed (minus plus : List (List Char)) :
    (flushed minus plus).flatMap (fun c => markedLine c.1 c.2) =
      minus.flatMap (markedLine '-') ++ plus.flatMap (markedLine '+') := by
  simp [flushed, List.flatMap_map]

/-- **What is printed for a script**: the dropped lines with one sign and the added ones
with the other, each in their order. -/
theorem exists_changes (minus plus : List (List Char)) (script : List (Edit (List Char))) :
    ∃ changes : List (Char × List Char),
      changesFrom minus plus script = changes.flatMap (fun c => markedLine c.1 c.2) ∧
      linesWith '-' changes = minus ++ dropped script ∧
      linesWith '+' changes = plus ++ added script ∧
      ∀ c ∈ changes, c.1 = '-' ∨ c.1 = '+' := by
  induction script generalizing minus plus with
  | nil =>
    refine ⟨flushed minus plus, (flatMap_flushed minus plus).symm, ?_, ?_, ?_⟩
    · simp [flushed, linesWith_map, dropped]
    · simp [flushed, linesWith_map, added]
    · exact fun c hc => sign_of_mem_flushed hc
  | cons e script ih =>
    cases e with
    | drop lines =>
      obtain ⟨changes, htext, hminus, hplus, hsigns⟩ := ih (minus ++ lines) plus
      exact ⟨changes, htext, by rw [hminus, List.append_assoc]; rfl, hplus, hsigns⟩
    | add lines =>
      obtain ⟨changes, htext, hminus, hplus, hsigns⟩ := ih minus (plus ++ lines)
      exact ⟨changes, htext, hminus, by rw [hplus, List.append_assoc]; rfl, hsigns⟩
    | keep lines =>
      obtain ⟨changes, htext, hminus, hplus, hsigns⟩ := ih [] []
      refine ⟨flushed minus plus ++ changes, ?_, ?_, ?_, ?_⟩
      · rw [List.flatMap_append, flatMap_flushed, ← htext]
        rfl
      · simp [flushed, linesWith_map, hminus, dropped]
      · simp [flushed, linesWith_map, hplus, added]
      · intro c hc
        rcases List.mem_append.mp hc with hc | hc
        · exact sign_of_mem_flushed hc
        · exact hsigns c hc

/-! ### Reading a diff -/

/-- A printed line without its sign, if it has this one. -/
def afterSign? (sign : Char) : List Char → Option (List Char)
  | c :: line => if c = sign then some line else none
  | [] => none

/-- The lines of a diff that have a sign, without it. -/
def signedLines (sign : Char) (diff : String) : List (List Char) :=
  (terminatedLines diff.toList).filterMap (afterSign? sign)

/-- The lines of what is printed are the changes, each behind its sign. -/
theorem terminatedLines_flatMap_markedLine {changes : List (Char × List Char)}
    (hsigns : ∀ c ∈ changes, c.1 = '-' ∨ c.1 = '+')
    (hlines : ∀ c ∈ changes, ∃ cs, c.2 ∈ terminatedLines cs) :
    terminatedLines (changes.flatMap fun c => markedLine c.1 c.2) =
      changes.map fun c => c.1 :: completed c.2 := by
  induction changes with
  | nil => rfl
  | cons c changes ih =>
    obtain ⟨hsign, hsigns⟩ := List.forall_mem_cons.mp hsigns
    obtain ⟨⟨cs, hline⟩, hlines⟩ := List.forall_mem_cons.mp hlines
    obtain ⟨content, ending, hcompleted, hcontent, hending⟩ := Text.exists_completed_eq hline
    have hmarked : markedLine c.1 c.2 = (c.1 :: content) ++ ending := by
      rw [List.cons_append, ← hcompleted]
      rfl
    have hinLine : Text.IsInLine (c.1 :: content) := by
      refine List.forall_mem_cons.mpr ⟨?_, hcontent⟩
      rcases hsign with h | h <;> rw [h] <;> decide
    rw [List.flatMap_cons, hmarked, Text.terminatedLines_append hinLine hending,
      ih hsigns hlines, List.map_cons, hcompleted, List.cons_append]

theorem filterMap_afterSign? (sign : Char) (changes : List (Char × List Char)) :
    (changes.map fun c => c.1 :: completed c.2).filterMap (afterSign? sign) =
      (linesWith sign changes).map completed := by
  induction changes with
  | nil => rfl
  | cons c changes ih =>
    by_cases h : c.1 = sign
    · simpa [linesWith, afterSign?, h] using ih
    · simpa [linesWith, afterSign?, h] using ih

/-- A diff accounts for every line of two texts: the first has the kept lines and those
that the diff prints with a minus sign, the second the kept lines and those that it prints
with a plus sign, all in their order, and the diff says nothing else. -/
structure Explains (diff old new : String) (kept dropped added : List (List Char)) : Prop where
  /-- Every line of the first text is kept or dropped. -/
  old : Interleaved kept dropped (terminatedLines old.toList)
  /-- Every line of the second text is kept or added. -/
  new : Interleaved kept added (terminatedLines new.toList)
  /-- The dropped lines are those with a minus sign. -/
  minus : signedLines '-' diff = dropped.map completed
  /-- The added lines are those with a plus sign. -/
  plus : signedLines '+' diff = added.map completed
  /-- Every line has one of these signs. -/
  signed : ∀ line ∈ terminatedLines diff.toList, line.head? = some '-' ∨ line.head? = some '+'

/-- The diff of a script between the lines of two texts accounts for them. -/
theorem explains_changeText {old new : String} {script : List (Edit (List Char))}
    (h : Leads script (terminatedLines old.toList) (terminatedLines new.toList)) :
    Explains (changeText script) old new (kept script) (dropped script) (added script) := by
  obtain ⟨changes, htext, hminus, hplus, hsigns⟩ := exists_changes [] [] script
  have hold := interleaved_source script
  have hnew := interleaved_result script
  rw [h.source] at hold
  rw [h.result] at hnew
  have hlines : ∀ c ∈ changes, ∃ cs, c.2 ∈ terminatedLines cs := by
    intro c hc
    have hmem := mem_linesWith hc
    rcases hsigns c hc with hsign | hsign
    · rw [hsign, hminus] at hmem
      exact ⟨_, hold.mem_of_mem_right hmem⟩
    · rw [hsign, hplus] at hmem
      exact ⟨_, hnew.mem_of_mem_right hmem⟩
  have hread : terminatedLines (changeText script).toList =
      changes.map fun c => c.1 :: completed c.2 := by
    rw [changeText, String.toList_ofList, htext]
    exact terminatedLines_flatMap_markedLine hsigns hlines
  refine ⟨hold, hnew, ?_, ?_, ?_⟩
  · rw [signedLines, hread, filterMap_afterSign?, hminus, List.nil_append]
  · rw [signedLines, hread, filterMap_afterSign?, hplus, List.nil_append]
  · intro line hline
    rw [hread] at hline
    obtain ⟨c, hc, rfl⟩ := List.mem_map.mp hline
    exact (hsigns c hc).imp (congrArg some) (congrArg some)

/-- Between equal texts there is nothing to print. -/
theorem lineDiff_self (s : String) : lineDiff s s = "" := by
  rw [lineDiff, lineScript, shortestScript_self, compact_keepRun]
  unfold keepRun
  split <;> rfl

/-- A diff that says nothing accounts for the lines of equal texts only. -/
theorem eq_of_explains_empty {old new : String} {kept dropped added : List (List Char)}
    (h : Explains "" old new kept dropped added) : old = new := by
  have hdropped : dropped = [] := List.map_eq_nil_iff.mp h.minus.symm
  have hadded : added = [] := List.map_eq_nil_iff.mp h.plus.symm
  have hold := h.old
  have hnew := h.new
  rw [hdropped] at hold
  rw [hadded] at hnew
  have hlines : terminatedLines old.toList = terminatedLines new.toList :=
    hold.eq_of_nil_right.trans hnew.eq_of_nil_right.symm
  exact String.toList_inj.mp (Text.terminatedLines_inj hlines)

/-- The script of a line diff leads from the lines of one text to those of the other. -/
theorem leads_lineScript (old new : String) :
    Leads (lineScript old new) (terminatedLines old.toList) (terminatedLines new.toList) :=
  (leads_shortestScript _ _).compact

/-- **A line diff accounts for every line of both texts, and is empty just if they are
equal.**  The diff of any script between their lines accounts for them, and says nothing only
if they are equal; the line diff is that of one such script.  The lines keep their
terminators, so texts that differ only in a carriage return or in the line feed at the end
have different lines. -/
theorem lineDiff_explains (old new : String) :
    (∀ script, Leads script (terminatedLines old.toList) (terminatedLines new.toList) →
      Explains (changeText script) old new (kept script) (dropped script) (added script) ∧
      (changeText script = "" → old = new)) ∧
    (∃ kept dropped added, Explains (lineDiff old new) old new kept dropped added) ∧
    (lineDiff old new = "" ↔ old = new) := by
  have hscript : ∀ script,
      Leads script (terminatedLines old.toList) (terminatedLines new.toList) →
      Explains (changeText script) old new (kept script) (dropped script) (added script) ∧
      (changeText script = "" → old = new) := by
    intro script hleads
    have hexplains := explains_changeText hleads
    refine ⟨hexplains, fun hempty => ?_⟩
    rw [hempty] at hexplains
    exact eq_of_explains_empty hexplains
  obtain ⟨hexplains, hequal⟩ := hscript _ (leads_lineScript old new)
  refine ⟨hscript, ⟨_, _, _, hexplains⟩, hequal, ?_⟩
  rintro rfl
  exact lineDiff_self old

/-- Texts that differ in their last line feed only: the line is printed with both signs. -/
example : lineDiff "a\nb" "a\nb\n" = "-b\n+b\n" := by decide

end Diff

end TreeSmith
