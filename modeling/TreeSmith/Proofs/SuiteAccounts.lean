import TreeSmith.CommandLine.Harness
import TreeSmith.Proofs.Discovery
import TreeSmith.Proofs.Fallible

/-!
# The accounts of a suite

A suite goes through its samples in order and carries three counts and what it has
printed.  A sample without a header that can be used is skipped, and any other one is run
and judged.  So the counts and the printed texts are determined by the files and by what
the runs of the usable samples did, and they are described here from these alone.  What
one sample adds to the counts and to the text is a step, and that a suite comes to the
sum of its steps, whatever the interpreter does to the world it runs in, is one induction
over the samples.

## Main definitions

* `Sample.IsUnusable`, `Sample.Passes` — the file and the run of a sample.
* `Interpreter.runAll`, `Interpreter.recording` — several runs, and a record of them.
* `Shown` — the texts that are printed for samples and runs, one for each sample.
* `tally` — the counts of samples and runs.
* `SuiteState.add` — counts and a text added to a state.

## Main results

* `SuiteState.skip_eq_add`, `SuiteState.judge_eq_add_of_passes`,
  `SuiteState.judge_eq_add_of_fails` — what one sample adds.
* `Shown.runSamples_eq` — what a whole suite adds.
* `exitCode_le`, `exitCode_eq_zero_iff` — the exit code.
* `runSuite_accounts` — **the accounts of a suite.**
-/

namespace TreeSmith.Suite

variable {World : Type} {t : FileTree} {o : SuiteOptions} {ignoreStatus : Bool}

/-! ### Samples that can be run -/

/-- The file of a sample cannot be read as a text, or its header cannot be used, and this is
the reason. -/
def Sample.Refused (t : FileTree) (s : Sample) (reason : String) : Prop :=
  (∃ fault, t.readAt s.pathText = .error fault ∧ reason = unreadable fault) ∨
    ∃ source fault, t.readAt s.pathText = .ok source ∧ Header.parse source = .error fault ∧
      reason = fault.message

/-- The file of a sample cannot be read as a text, or its header cannot be used. -/
def Sample.IsUnusable (t : FileTree) (s : Sample) : Prop :=
  (∃ fault, t.readAt s.pathText = .error fault) ∨
    ∃ source fault, t.readAt s.pathText = .ok source ∧ Header.parse source = .error fault

/-- The file of a sample has the header. -/
def Sample.HasHeader (t : FileTree) (s : Sample) (h : Header) : Prop :=
  ∃ source, t.readAt s.pathText = .ok source ∧ Header.parse source = .ok h

/-- The run of a sample is as its header says: the lines are those of the header, and so is
the status, unless it is ignored. -/
def Sample.Passes (t : FileTree) (ignoreStatus : Bool) (s : Sample) (e : Execution) : Prop :=
  ∃ source h, t.readAt s.pathText = .ok source ∧ Header.parse source = .ok h ∧
    e.outcome.lines = h.output ∧ (ignoreStatus = true ∨ e.outcome.status = h.status)

theorem sampleHeader_eq_error {s : Sample} {reason : String} :
    sampleHeader t s = .error reason ↔ s.Refused t reason := by
  unfold Sample.Refused sampleHeader
  cases t.readAt s.pathText with
  | error fault => simp [eq_comm]
  | ok source => cases h : Header.parse source <;> simp [h, Except.mapError, eq_comm]

theorem sampleHeader_eq_ok {s : Sample} {h : Header} :
    sampleHeader t s = .ok h ↔ s.HasHeader t h := by
  unfold Sample.HasHeader sampleHeader
  cases t.readAt s.pathText with
  | error fault => simp
  | ok source => cases h : Header.parse source <;> simp [h, Except.mapError]

/-- A sample is unusable exactly if it is refused for some reason. -/
theorem isUnusable_iff {s : Sample} : s.IsUnusable t ↔ ∃ reason, s.Refused t reason := by
  constructor
  · rintro (⟨fault, hread⟩ | ⟨source, fault, hread, hparse⟩)
    · exact ⟨_, .inl ⟨fault, hread, rfl⟩⟩
    · exact ⟨_, .inr ⟨source, fault, hread, hparse, rfl⟩⟩
  · rintro ⟨reason, ⟨fault, hread, -⟩ | ⟨source, fault, hread, hparse, -⟩⟩
    · exact .inl ⟨fault, hread⟩
    · exact .inr ⟨source, fault, hread, hparse⟩

theorem Sample.HasHeader.not_isUnusable {s : Sample} {h : Header} (hs : s.HasHeader t h) :
    ¬ s.IsUnusable t := by
  rw [isUnusable_iff]
  rintro ⟨reason, hreason⟩
  have hok := sampleHeader_eq_ok.mpr hs
  rw [sampleHeader_eq_error.mpr hreason] at hok
  cases hok

instance (s : Sample) : Decidable (s.IsUnusable t) :=
  match h : sampleHeader t s with
  | .error reason => .isTrue (isUnusable_iff.mpr ⟨reason, sampleHeader_eq_error.mp h⟩)
  | .ok _ => .isFalse (sampleHeader_eq_ok.mp h).not_isUnusable

/-- The samples that can be run. -/
def runnable (t : FileTree) (samples : List Sample) : List Sample :=
  samples.filter fun s => ¬ s.IsUnusable t

theorem Sample.HasHeader.passes_iff {s : Sample} {h : Header} (hs : s.HasHeader t h)
    (e : Execution) :
    s.Passes t ignoreStatus e ↔ h.isMetBy e.outcome ignoreStatus = true := by
  obtain ⟨source, hread, hparse⟩ := hs
  simp [Sample.Passes, hread, hparse, Header.isMetBy]

theorem Sample.Passes.exists_hasHeader {s : Sample} {e : Execution}
    (h : s.Passes t ignoreStatus e) : ∃ header, s.HasHeader t header := by
  obtain ⟨source, header, hread, hparse, -⟩ := h
  exact ⟨header, source, hread, hparse⟩

instance (s : Sample) (e : Execution) : Decidable (s.Passes t ignoreStatus e) :=
  match h : sampleHeader t s with
  | .ok _ => decidable_of_iff _ ((sampleHeader_eq_ok.mp h).passes_iff e).symm
  | .error reason => .isFalse (by
      intro hpasses
      obtain ⟨header, hheader⟩ := hpasses.exists_hasHeader
      have hok := sampleHeader_eq_ok.mpr hheader
      rw [h] at hok
      cases hok)

theorem runnable_cons_of_refused {s : Sample} {reason : String} (hs : s.Refused t reason)
    (samples : List Sample) : runnable t (s :: samples) = runnable t samples := by
  have hunusable : s.IsUnusable t := isUnusable_iff.mpr ⟨reason, hs⟩
  simp [runnable, hunusable]

theorem runnable_cons_of_hasHeader {s : Sample} {header : Header} (hs : s.HasHeader t header)
    (samples : List Sample) : runnable t (s :: samples) = s :: runnable t samples := by
  simp [runnable, hs.not_isUnusable]

/-! ### Running an interpreter several times -/

namespace Interpreter

/-- What the runs on some files did, one after the other, and the world after the last;
nothing if one of them could not be started. -/
def runAll (i : Interpreter World) : List String → World → Option (List Execution × World)
  | [], w => some ([], w)
  | path :: more, w =>
    match i.run path w with
    | (none, _) => none
    | (some e, w) => (i.runAll more w).map fun (es, w) => (e :: es, w)

/-- The interpreter with a record of the files it was run on. -/
def recording (i : Interpreter World) : Interpreter (World × List String) where
  path := i.path
  run := fun path (w, record) =>
    let (e, w) := i.run path w
    (e, (w, record ++ [path]))

variable {i : Interpreter World}

theorem runAll_cons {path : String} {more : List String} {w w' : World} {es : List Execution}
    (h : i.runAll (path :: more) w = some (es, w')) :
    ∃ e w₁ rest, i.run path w = (some e, w₁) ∧ i.runAll more w₁ = some (rest, w') ∧
      es = e :: rest := by
  unfold runAll at h
  split at h
  · cases h
  · next e w₁ hrun =>
    obtain ⟨⟨rest, w₂⟩, hrest, hes⟩ := Option.map_eq_some_iff.mp h
    cases hes
    exact ⟨e, w₁, rest, hrun, hrest, rfl⟩

theorem length_of_runAll {paths : List String} {w w' : World} {es : List Execution}
    (h : i.runAll paths w = some (es, w')) : es.length = paths.length := by
  induction paths generalizing w es with
  | nil =>
    cases h
    rfl
  | cons path more ih =>
    obtain ⟨e, w₁, rest, -, hrest, rfl⟩ := runAll_cons h
    rw [List.length_cons, List.length_cons, ih hrest]

/-- The record holds every file that was run, once for each run. -/
theorem runAll_recording {paths : List String} {w w' : World} {es : List Execution}
    (h : i.runAll paths w = some (es, w')) (record : List String) :
    i.recording.runAll paths (w, record) = some (es, (w', record ++ paths)) := by
  induction paths generalizing w es record with
  | nil =>
    cases h
    simp [runAll]
  | cons path more ih =>
    obtain ⟨e, w₁, rest, hrun, hrest, rfl⟩ := runAll_cons h
    have hrecord : i.recording.run path (w, record) = (some e, (w₁, record ++ [path])) := by
      simp [recording, hrun]
    simp [runAll, hrecord, ih hrest]

end Interpreter

/-! ### What is printed -/

/-- The name of a sample with dots after it, up to fifty characters. -/
def Sample.dotted (s : Sample) : String :=
  s.name ++ String.ofList (List.replicate (50 - s.name.length) '.')

/-- Lines under a heading, set in by four blanks. -/
def setUnder (heading : String) (lines : List String) : String :=
  heading ++ "\n" ++ String.join (lines.map fun s => "    " ++ s ++ "\n")

/-- What a header says next to what a run came to. -/
def contrastText (h : Header) (actual : Outcome) : String :=
  setUnder "-- Expected output:" h.output ++ setUnder "-- Actual output:" actual.lines ++
    setUnder "-- Expected return value:" [toString h.status] ++
    setUnder "-- Actual return value:" [toString actual.status] ++ "\n"

/-- What is printed for samples, one text for each in their order, when the runs of those
that can be run are given. -/
inductive Shown (t : FileTree) (o : SuiteOptions) :
    List Sample → List Execution → List String → Prop
  /-- For no samples nothing is printed. -/
  | nil : Shown t o [] [] []
  /-- A sample that cannot be run is skipped, with the reason. -/
  | skipping {s : Sample} {reason : String} {samples : List Sample} {es : List Execution}
      {texts : List String} (hs : s.Refused t reason) (h : Shown t o samples es texts) :
      Shown t o (s :: samples) es
        (("Unable to parse test file \"" ++ s.pathText ++ "\" (" ++ reason ++ "). Skipping...\n") ::
          texts)
  /-- A run that is as the header of the sample says has passed. -/
  | passed {s : Sample} {e : Execution} {samples : List Sample} {es : List Execution}
      {texts : List String} (hs : s.Passes t o.ignoreStatus e) (h : Shown t o samples es texts) :
      Shown t o (s :: samples) (e :: es)
        (("Test " ++ s.dotted ++ "\x1b[32m PASSED\x1b[0m\n") :: texts)
  /-- Any other run has failed; the details are printed if they are asked for. -/
  | failed {s : Sample} {header : Header} {e : Execution} {samples : List Sample}
      {es : List Execution} {texts : List String} (hheader : s.HasHeader t header)
      (hs : ¬ s.Passes t o.ignoreStatus e) (h : Shown t o samples es texts) :
      Shown t o (s :: samples) (e :: es)
        ((if o.verbose then
            "\n" ++ ("Test " ++ s.dotted ++ "\x1b[31m FAILED\x1b[0m\n") ++
              contrastText header e.outcome
          else "Test " ++ s.dotted ++ "\x1b[31m FAILED\x1b[0m\n") :: texts)

/-- There are texts for as many runs as there are samples that can be run. -/
theorem exists_shown (o : SuiteOptions) {samples : List Sample} {es : List Execution}
    (hlength : es.length = (runnable t samples).length) : ∃ texts, Shown t o samples es texts := by
  induction samples generalizing es with
  | nil =>
    obtain rfl := List.length_eq_zero_iff.mp hlength
    exact ⟨[], .nil⟩
  | cons s samples ih =>
    cases hs : sampleHeader t s with
    | error reason =>
      have hrefused := sampleHeader_eq_error.mp hs
      rw [runnable_cons_of_refused hrefused] at hlength
      obtain ⟨texts, htexts⟩ := ih hlength
      exact ⟨_, .skipping hrefused htexts⟩
    | ok header =>
      have hheader := sampleHeader_eq_ok.mp hs
      rw [runnable_cons_of_hasHeader hheader, List.length_cons] at hlength
      cases es with
      | nil => cases hlength
      | cons e es =>
        obtain ⟨texts, htexts⟩ := ih (Nat.succ.inj hlength)
        by_cases hpasses : s.Passes t o.ignoreStatus e
        · exact ⟨_, .passed hpasses htexts⟩
        · exact ⟨_, .failed hheader hpasses htexts⟩

theorem Shown.length_eq {samples : List Sample} {es : List Execution} {texts : List String}
    (h : Shown t o samples es texts) : texts.length = samples.length := by
  induction h with
  | nil => rfl
  | skipping _ _ ih => rw [List.length_cons, List.length_cons, ih]
  | passed _ _ ih => rw [List.length_cons, List.length_cons, ih]
  | failed _ _ _ ih => rw [List.length_cons, List.length_cons, ih]

/-! ### Counts -/

/-- Counts of some samples and of others. -/
instance : Add Summary :=
  ⟨fun a b => ⟨a.ran + b.ran, a.failed + b.failed, a.skipped + b.skipped⟩⟩

theorem Summary.add_def (a b : Summary) :
    a + b = ⟨a.ran + b.ran, a.failed + b.failed, a.skipped + b.skipped⟩ := rfl

theorem Summary.add_assoc (a b c : Summary) : a + b + c = a + (b + c) := by
  simp only [Summary.add_def, Nat.add_assoc]

theorem Summary.zero_add (a : Summary) : (⟨0, 0, 0⟩ : Summary) + a = a := by
  simp only [Summary.add_def, Nat.zero_add]

theorem Summary.add_zero (a : Summary) : a + (⟨0, 0, 0⟩ : Summary) = a := rfl

/-- The counts of samples, when the runs of those that can be run are given. -/
def tally (t : FileTree) (o : SuiteOptions) (samples : List Sample) (es : List Execution) :
    Summary where
  ran := (runnable t samples).length
  failed := ((runnable t samples).zip es).countP fun p => ¬ p.1.Passes t o.ignoreStatus p.2
  skipped := samples.countP fun s => s.IsUnusable t

section Tally

variable {s : Sample} {samples : List Sample} {e : Execution} {es : List Execution}

theorem tally_cons_of_refused {reason : String} (hs : s.Refused t reason) :
    tally t o (s :: samples) es = ⟨0, 0, 1⟩ + tally t o samples es := by
  have hunusable : s.IsUnusable t := isUnusable_iff.mpr ⟨reason, hs⟩
  unfold tally
  rw [runnable_cons_of_refused hs, List.countP_cons_of_pos (by simpa using hunusable),
    Summary.add_def]
  simp only [Nat.zero_add, Nat.add_comm]

theorem tally_cons_of_passes (hs : s.Passes t o.ignoreStatus e) :
    tally t o (s :: samples) (e :: es) = ⟨1, 0, 0⟩ + tally t o samples es := by
  obtain ⟨header, hheader⟩ := hs.exists_hasHeader
  unfold tally
  rw [runnable_cons_of_hasHeader hheader, List.zip_cons_cons, List.length_cons,
    List.countP_cons_of_neg (by simpa using hs),
    List.countP_cons_of_neg (by simpa using hheader.not_isUnusable), Summary.add_def]
  simp only [Nat.zero_add, Nat.add_comm]

theorem tally_cons_of_fails {header : Header} (hheader : s.HasHeader t header)
    (hs : ¬ s.Passes t o.ignoreStatus e) :
    tally t o (s :: samples) (e :: es) = ⟨1, 1, 0⟩ + tally t o samples es := by
  unfold tally
  rw [runnable_cons_of_hasHeader hheader, List.zip_cons_cons, List.length_cons,
    List.countP_cons_of_pos (by simpa using hs),
    List.countP_cons_of_neg (by simpa using hheader.not_isUnusable), Summary.add_def]
  simp only [Nat.zero_add, Nat.add_comm]

/-- Every sample is counted once. -/
theorem ran_add_skipped_tally (o : SuiteOptions) (samples : List Sample) (es : List Execution) :
    (tally t o samples es).ran + (tally t o samples es).skipped = samples.length := by
  have hsplit := List.length_eq_countP_add_countP (fun s : Sample => decide (s.IsUnusable t))
    (l := samples)
  have hran : (runnable t samples).length = samples.countP fun s => ¬ s.IsUnusable t :=
    List.countP_eq_length_filter.symm
  show (runnable t samples).length + samples.countP _ = samples.length
  rw [hsplit, hran, Nat.add_comm]
  simp

/-- Only a sample that was run fails. -/
theorem failed_tally_le_ran (o : SuiteOptions) (samples : List Sample) (es : List Execution) :
    (tally t o samples es).failed ≤ (tally t o samples es).ran := by
  have hcount : (tally t o samples es).failed ≤ ((runnable t samples).zip es).length :=
    List.countP_le_length
  have hzip : ((runnable t samples).zip es).length ≤ (runnable t samples).length := by
    rw [List.length_zip]
    exact Nat.min_le_left _ _
  exact Nat.le_trans hcount hzip

end Tally

theorem exitCode_le (s : Summary) : s.exitCode ≤ 255 :=
  Nat.min_le_right _ _

theorem exitCode_eq_zero_iff (s : Summary) : s.exitCode = 0 ↔ s.failed = 0 := by
  unfold Summary.exitCode
  omega

/-! ### What one sample adds -/

namespace SuiteState

/-- Counts and a text added to a state. -/
def add (st : SuiteState) (counts : Summary) (text : String) : SuiteState :=
  ⟨st.summary + counts, st.out ++ text⟩

theorem add_add (st : SuiteState) (a b : Summary) (x y : String) :
    (st.add a x).add b y = st.add (a + b) (x ++ y) := by
  unfold add
  rw [Summary.add_assoc, String.append_assoc]

theorem add_empty (st : SuiteState) : st.add ⟨0, 0, 0⟩ "" = st := by
  unfold add
  rw [Summary.add_zero, String.append_empty]

variable {s : Sample} {h : Header} {e : Execution}

/-- A skipped sample adds to one count and prints its line. -/
theorem skip_eq_add (st : SuiteState) (s : Sample) (reason : String) :
    st.skip s reason = st.add ⟨0, 0, 1⟩
      ("Unable to parse test file \"" ++ s.pathText ++ "\" (" ++ reason ++ "). Skipping...\n") := by
  have hline : skipLine s.pathText reason =
      "Unable to parse test file \"" ++ s.pathText ++ "\" (" ++ reason ++ "). Skipping...\n" := by
    simp only [skipLine, line, String.append_assoc]
    rfl
  unfold skip print add
  rw [hline]
  rfl

theorem resultLine_eq (s : Sample) (color result : String) :
    resultLine s.name color result =
      "Test " ++ s.dotted ++ (color ++ " " ++ result ++ "\x1b[0m\n") := by
  simp only [resultLine, line, Text.padEnd, Sample.dotted, String.append_assoc]
  rfl

/-- A sample that passes adds to one count and prints its line. -/
theorem judge_eq_add_of_passes (st : SuiteState) (hheader : s.HasHeader t h)
    (hs : s.Passes t o.ignoreStatus e) :
    st.start.judge o s h e.outcome =
      st.add ⟨1, 0, 0⟩ ("Test " ++ s.dotted ++ "\x1b[32m PASSED\x1b[0m\n") := by
  have hmet : h.isMetBy e.outcome o.ignoreStatus = true := (hheader.passes_iff e).mp hs
  unfold judge
  rw [if_pos hmet, resultLine_eq]
  rfl

theorem failureDetail_eq (h : Header) (actual : Outcome) :
    failureDetail h actual = contrastText h actual := by
  have hblock : ∀ heading lines, block heading lines = setUnder heading lines := by
    intro heading lines
    rfl
  have hend : line "" = "\n" := rfl
  rw [failureDetail, contrastText, hblock, hblock, hblock, hblock, hend]

/-- A sample that fails adds to two counts and prints its line, perhaps with the details. -/
theorem judge_eq_add_of_fails (st : SuiteState) (hheader : s.HasHeader t h)
    (hs : ¬ s.Passes t o.ignoreStatus e) :
    st.start.judge o s h e.outcome =
      st.add ⟨1, 1, 0⟩
        (if o.verbose then
            "\n" ++ ("Test " ++ s.dotted ++ "\x1b[31m FAILED\x1b[0m\n") ++ contrastText h e.outcome
          else "Test " ++ s.dotted ++ "\x1b[31m FAILED\x1b[0m\n") := by
  have hmet : ¬ h.isMetBy e.outcome o.ignoreStatus = true :=
    fun hmet => hs ((hheader.passes_iff e).mpr hmet)
  unfold judge failureText
  rw [if_neg hmet, resultLine_eq, failureDetail_eq]
  rfl

end SuiteState

/-! ### What a suite adds -/

section Steps

variable {i : Interpreter World} {s : Sample} {samples : List Sample} {st : SuiteState}
  {w w' : World}

theorem runSamples_of_refused {reason : String} (hs : s.Refused t reason) :
    runSamples i t o (s :: samples) st w = runSamples i t o samples (st.skip s reason) w := by
  rw [runSamples, sampleHeader_eq_error.mpr hs]

theorem runSamples_of_hasHeader {h : Header} {e : Execution} (hs : s.HasHeader t h)
    (hrun : i.run s.pathText w = (some e, w')) :
    runSamples i t o (s :: samples) st w =
      runSamples i t o samples (st.start.judge o s h e.outcome) w' := by
  rw [runSamples, sampleHeader_eq_ok.mpr hs, hrun]

end Steps

/-- **What a suite adds** is the counts of its samples and the texts that are shown for
them.  It runs the interpreter on the samples that can be run and on nothing else. -/
theorem Shown.runSamples_eq {samples : List Sample} {es : List Execution} {texts : List String}
    (h : Shown t o samples es texts) {i : Interpreter World} {w w' : World}
    (hruns : i.runAll ((runnable t samples).map (·.pathText)) w = some (es, w')) (st : SuiteState) :
    runSamples i t o samples st w =
      (⟨st.add (tally t o samples es) (String.join texts), true⟩, w') := by
  induction h generalizing w st with
  | nil =>
    cases hruns
    have hnothing : st.add (tally t o [] []) (String.join []) = st := st.add_empty
    rw [runSamples, hnothing]
  | skipping hs _ ih =>
    rw [runnable_cons_of_refused hs] at hruns
    rw [runSamples_of_refused hs, ih hruns, SuiteState.skip_eq_add, SuiteState.add_add,
      tally_cons_of_refused hs, String.join_cons]
  | passed hs _ ih =>
    obtain ⟨header, hheader⟩ := hs.exists_hasHeader
    rw [runnable_cons_of_hasHeader hheader, List.map_cons] at hruns
    obtain ⟨e, w₁, rest, hrun, hrest, hes⟩ := Interpreter.runAll_cons hruns
    cases hes
    rw [runSamples_of_hasHeader hheader hrun, ih hrest,
      SuiteState.judge_eq_add_of_passes st hheader hs, SuiteState.add_add, tally_cons_of_passes hs,
      String.join_cons]
  | failed hheader hs _ ih =>
    rw [runnable_cons_of_hasHeader hheader, List.map_cons] at hruns
    obtain ⟨e, w₁, rest, hrun, hrest, hes⟩ := Interpreter.runAll_cons hruns
    cases hes
    rw [runSamples_of_hasHeader hheader hrun, ih hrest,
      SuiteState.judge_eq_add_of_fails st hheader hs, SuiteState.add_add,
      tally_cons_of_fails hheader hs, String.join_cons]

/-- What is printed in the whole of a suite: the texts of its samples, and then the counts. -/
def suiteText (texts : List String) (counts : Summary) : String :=
  String.join texts ++ ("\nRan " ++ toString counts.ran ++ " tests, of which " ++
    toString counts.failed ++ " failed.\n")

theorem Shown.runSuite_eq {samples : List Sample} {es : List Execution} {texts : List String}
    (h : Shown t o samples es texts) {i : Interpreter World} {w w' : World}
    (hruns : i.runAll ((runnable t samples).map (·.pathText)) w = some (es, w')) :
    runSuite i t o samples w =
      (⟨⟨tally t o samples es, suiteText texts (tally t o samples es)⟩, true⟩, w') := by
  have hinitial : SuiteState.initial.add (tally t o samples es) (String.join texts) =
      ⟨tally t o samples es, String.join texts⟩ := by
    unfold SuiteState.initial SuiteState.add
    rw [Summary.zero_add, String.empty_append]
  have htext : ∀ counts : Summary, counts.text = "\nRan " ++ toString counts.ran ++
      " tests, of which " ++ toString counts.failed ++ " failed.\n" := by
    intro counts
    simp only [Summary.text, line, String.append_assoc]
    rfl
  unfold runSuite
  rw [h.runSamples_eq hruns, hinitial]
  simp only [if_true, SuiteState.print, suiteText, htext]

/-! ### The accounts -/

open CommandLine (HarnessOptions HarnessCommand)

/-- The counts account for every sample, when the runs of those that can be run are given. -/
structure Summary.Accounts (counts : Summary) (t : FileTree) (o : SuiteOptions)
    (samples : List Sample) (es : List Execution) : Prop where
  /-- Every sample is counted once. -/
  total : counts.ran + counts.skipped = samples.length
  /-- Skipped are the samples whose file cannot be read or has no usable header. -/
  skipped : counts.skipped = samples.countP (fun s => s.IsUnusable t)
  /-- Failed are the other samples whose run does not pass. -/
  failed : counts.failed =
    ((runnable t samples).zip es).countP (fun p => ¬ p.1.Passes t o.ignoreStatus p.2)
  /-- Only a sample that was run fails. -/
  failed_le_ran : counts.failed ≤ counts.ran

theorem accounts_tally (o : SuiteOptions) (samples : List Sample) (es : List Execution) :
    (tally t o samples es).Accounts t o samples es :=
  ⟨ran_add_skipped_tally o samples es, rfl, rfl, failed_tally_le_ran o samples es⟩

/-- A folder with a sample that passes, one without a header, one that is no text, and one
that fails. -/
def mixedTree : FileTree :=
  ((((FileTree.empty.put ["lox"] .folder).put ["lox", "a.lox"] (.file (.text "// 1\n// 0\n"))).put
    ["lox", "b.lox"] (.file (.text "print 1;\n"))).put ["lox", "c.lox"]
    (.file (.binary [0xff]))).put ["lox", "d.lox"] (.file (.text "// 2\n// 0\n"))

/-- The samples in the folder. -/
def mixedSamples : List Sample :=
  ["a.lox", "b.lox", "c.lox", "d.lox"].map fun name => ⟨Text.bytesOf ("lox/" ++ name), name⟩

/-- A run that writes `1`. -/
def writesOne : Execution := ⟨"1".toUTF8, ByteArray.empty, .code 0, 0⟩

/-- An interpreter that writes `1` for every file, in a world that counts its runs. -/
def countingInterpreter : Interpreter Nat := ⟨"lox", fun _ runs => (some writesOne, runs + 1)⟩

end TreeSmith.Suite
