import TreeSmith.Proofs.ArtifactFiles
import TreeSmith.Proofs.Registration

/-!
# Derived names

The module of a family and the visitor method of a node type are named after them in
snake case.  A registry tells names apart as they are spelled, and snake case forgets
part of the spelling: the case of letters, and whether two words are divided by an
underscore or by a capital letter.  So different names may have the same derived name.

What snake case keeps are the words of a name.  A word ends at an underscore and before
a capital letter that follows a small letter or digit; snake case is the words in small
letters with underscores between them, and no word holds an underscore.  Two derived
names are therefore the same exactly when the names have the same words up to the case
of letters.

## Main definitions

* `Name.words`, `Name.SameWords` — the words of a name, and names that have the same.
* `Registry.moduleFiles`, `Family.visitMethods` — the derived names.

## Main results

* `Name.snakeFrom_eq_intercalate` — snake case is the words with underscores between.
* `Name.snakeCase_eq_iff` — identifiers have one snake form when they have the same
  words.
* `Registry.nodup_derivedNames_iff` — **when the derived names of a registry are
  distinct.**
* `Registry.not_forall_nodup_derivedNames` — not every registry has distinct ones.
-/

namespace TreeSmith

namespace Name

/-! ### Words -/

/-- The words from left to right; `small` says that a small letter or digit came
before. -/
def wordsFrom (small : Bool) : List Char → List (List Char)
  | [] => [[]]
  | c :: cs =>
    if c = '_' then [] :: wordsFrom false cs
    else
      let more := (wordsFrom (c.isLower || c.isDigit) cs).modifyHead (c :: ·)
      if c.isUpper && small then [] :: more else more

/-- The words of a name: a word ends at an underscore, and before a capital letter that
follows a small letter or digit. -/
def words (name : String) : List (List Char) :=
  wordsFrom false name.toList

/-- A word in small letters. -/
def lower (word : List Char) : List Char :=
  word.map Char.toLower

/-- The names have the same words up to the case of letters. -/
def SameWords (a b : String) : Prop :=
  (words a).map lower = (words b).map lower
  deriving Decidable

example : words "HTTPServer2XFor_loop" =
    ["HTTPServer2".toList, "XFor".toList, "loop".toList] := by decide

theorem wordsFrom_ne_nil (small : Bool) (cs : List Char) : wordsFrom small cs ≠ [] := by
  induction cs generalizing small with
  | nil => simp [wordsFrom]
  | cons c cs ih =>
    simp only [wordsFrom]
    split
    · simp
    · split <;> simp [ih]

theorem isLower_or_isDigit_of_isUpper {c : Char} (h : c.isUpper = true) :
    (c.isLower || c.isDigit) = false := by
  simp only [Char.isUpper, Char.isLower, Char.isDigit, UInt32.le_iff_toNat_le, ge_iff_le,
    decide_eq_true_eq, Bool.or_eq_false_iff, Bool.and_eq_false_iff, decide_eq_false_iff_not] at h ⊢
  have hA : 'A'.val.toNat = 65 := rfl
  have hZ : 'Z'.val.toNat = 90 := rfl
  have ha : 'a'.val.toNat = 97 := rfl
  have h9 : '9'.val.toNat = 57 := rfl
  omega

theorem toLower_ne_underscore {c : Char} (h : c ≠ '_') : c.toLower ≠ '_' := by
  intro heq
  by_cases hup : c.isUpper = true
  · have halpha : c.toLower.isAlpha = true := by
      rw [Char.isAlpha_toLower_eq_isAlpha, Char.isAlpha, hup, Bool.true_or]
    rw [heq] at halpha
    exact absurd halpha (by decide)
  · rw [Char.toLower_eq_of_not_isUpper hup] at heq
    exact h heq

/-- No word holds an underscore. -/
theorem underscore_notMem_wordsFrom {small : Bool} {cs word : List Char}
    (h : word ∈ wordsFrom small cs) : '_' ∉ word := by
  induction cs generalizing small word with
  | nil => simp_all [wordsFrom]
  | cons c cs ih =>
    have hmore : c ≠ '_' → ∀ w ∈ (wordsFrom (c.isLower || c.isDigit) cs).modifyHead (c :: ·),
        '_' ∉ w := by
      intro hc w hw
      cases hws : wordsFrom (c.isLower || c.isDigit) cs with
      | nil => simp [hws] at hw
      | cons u us =>
        rw [hws, List.modifyHead_cons, List.mem_cons] at hw
        rcases hw with rfl | hw
        · have hu : '_' ∉ u := ih (hws ▸ List.mem_cons_self)
          simp [Ne.symm hc, hu]
        · exact ih (hws ▸ List.mem_cons_of_mem _ hw)
    simp only [wordsFrom] at h
    split at h
    · rcases List.mem_cons.mp h with rfl | h
      · simp
      · exact ih h
    · next hc =>
      split at h
      · rcases List.mem_cons.mp h with rfl | h
        · simp
        · exact hmore hc word h
      · exact hmore hc word h

section Intercalate

variable {ws : List (List Char)} (h : ws ≠ [])
include h

/-- A word that ends before it starts leaves an underscore. -/
theorem intercalate_lower_nil_cons :
    ['_'].intercalate (([] :: ws).map lower) = '_' :: ['_'].intercalate (ws.map lower) := by
  rw [List.map_cons, List.intercalate_cons_of_ne_nil (by simpa using h)]
  rfl

/-- A letter of the first word stands in front. -/
theorem intercalate_lower_modifyHead (c : Char) :
    ['_'].intercalate ((ws.modifyHead (c :: ·)).map lower) =
      c.toLower :: ['_'].intercalate (ws.map lower) := by
  cases ws with
  | nil => exact absurd rfl h
  | cons w ws => cases ws <;> simp [lower]

end Intercalate

/-- **Snake case is the words in small letters with underscores between them.** -/
theorem snakeFrom_eq_intercalate {cs : List Char} (h : ∀ c ∈ cs, isPart c = true) (small : Bool) :
    snakeFrom small cs = ['_'].intercalate ((wordsFrom small cs).map lower) := by
  induction cs generalizing small with
  | nil => rfl
  | cons c cs ih =>
    have ih := ih fun d hd => h d (List.mem_cons_of_mem _ hd)
    by_cases hscore : c = '_'
    · -- an underscore of the name ends a word
      subst hscore
      have hwords : wordsFrom small ('_' :: cs) = [] :: wordsFrom false cs := rfl
      rw [hwords, intercalate_lower_nil_cons (wordsFrom_ne_nil _ _), ← ih]
      rfl
    · have hmore := intercalate_lower_modifyHead (wordsFrom_ne_nil (c.isLower || c.isDigit) cs) c
      rw [← ih] at hmore
      by_cases hup : c.isUpper = true
      · -- a capital letter may end a word before it starts its own
        rw [isLower_or_isDigit_of_isUpper hup] at hmore
        cases small with
        | true =>
          have hwords : wordsFrom true (c :: cs) =
              [] :: (wordsFrom false cs).modifyHead (c :: ·) := by
            simp [wordsFrom, hscore, hup, isLower_or_isDigit_of_isUpper hup]
          rw [hwords, intercalate_lower_nil_cons (by simp [wordsFrom_ne_nil]), hmore]
          simp [snakeFrom, hup]
        | false =>
          simp [snakeFrom, wordsFrom, hscore, hup, isLower_or_isDigit_of_isUpper hup, hmore]
      · have hblank : (c = '-' || c = ' ') = false := by
          have hpart := h c List.mem_cons_self
          rw [Bool.or_eq_false_iff, decide_eq_false_iff_not, decide_eq_false_iff_not]
          constructor <;> (rintro rfl; exact absurd hpart (by decide))
        rw [Char.toLower_eq_of_not_isUpper hup] at hmore
        simp [snakeFrom, wordsFrom, hscore, hup, hblank, hmore]

/-- Reading the words back from their snake form. -/
theorem splitOn_intercalate_words (name : String) :
    (['_'].intercalate ((words name).map lower)).splitOn '_' = (words name).map lower := by
  refine List.splitOn_intercalate '_' ?_ (by simp [words, wordsFrom_ne_nil])
  intro w hw hmem
  obtain ⟨u, hu, rfl⟩ := List.mem_map.mp hw
  obtain ⟨c, hc, heq⟩ := List.mem_map.mp hmem
  have hne : c ≠ '_' := fun h => underscore_notMem_wordsFrom hu (h ▸ hc)
  exact toLower_ne_underscore hne heq

/-- **Identifiers have one snake form exactly when they have the same words.** -/
theorem snakeCase_eq_iff {a b : String} (ha : isIdentifier a = true) (hb : isIdentifier b = true) :
    snakeCase a = snakeCase b ↔ SameWords a b := by
  have hsnake : ∀ {name : String}, isIdentifier name = true →
      snakeCase name = String.ofList (['_'].intercalate ((words name).map lower)) := by
    intro name h
    rw [snakeCase, snakeFrom_eq_intercalate (isPart_of_isIdentifier h), words]
  rw [hsnake ha, hsnake hb, SameWords]
  constructor
  · intro h
    rw [← splitOn_intercalate_words a, String.ofList_injective h, splitOn_intercalate_words]
  · intro h
    rw [h]

theorem artifactFile_inj {a b : String} :
    artifactFile a = artifactFile b ↔ snakeCase a = snakeCase b := by
  simp [artifactFile]

theorem visitMethod_inj {a b base : String} :
    visitMethod a base = visitMethod b base ↔ snakeCase a = snakeCase b := by
  simp [visitMethod, String.append_assoc]

end Name

/-! ### Registries -/

/-- The visitor methods of a family in order. -/
def Family.visitMethods (f : Family) : List String :=
  f.nodeTypes.map fun n => Name.visitMethod n.name f.name

namespace Registry

/-- The files of the families' modules in order. -/
def moduleFiles (r : Registry) : List String :=
  r.families.map fun f => Name.artifactFile f.name

/-- Derived names of identifiers are distinct when no two of these have the same
words. -/
theorem nodup_map_iff_sameWords {α : Type} {as : List α} {name derived : α → String}
    (hname : ∀ a ∈ as, Name.isIdentifier (name a) = true)
    (hderived : ∀ a b, derived a = derived b ↔ Name.snakeCase (name a) = Name.snakeCase (name b)) :
    (as.map derived).Nodup ↔ as.Pairwise fun a b => ¬ Name.SameWords (name a) (name b) := by
  rw [List.Nodup, List.pairwise_map]
  refine List.Pairwise.iff_of_mem fun {a b} ha hb => ?_
  rw [Ne, hderived, Name.snakeCase_eq_iff (hname a ha) (hname b hb)]

/-- **When the derived names of a registry are distinct.**  Whatever was registered, the
families have files of their own exactly when no two of them have the same words, and
the node types of a family have visitor methods of their own exactly when no two of
these have the same words. -/
theorem nodup_derivedNames_iff {r : Registry} (hr : r.Reachable) :
    (r.moduleFiles.Nodup ↔ r.families.Pairwise fun f g => ¬ Name.SameWords f.name g.name) ∧
    ∀ f ∈ r.families, (f.visitMethods.Nodup ↔
      f.nodeTypes.Pairwise fun m n => ¬ Name.SameWords m.name n.name) := by
  have hvalid := hr.valid
  constructor
  · exact nodup_map_iff_sameWords (fun f hf => (hvalid.families f hf).name.identifier)
      fun f g => Name.artifactFile_inj
  · intro f hf
    exact nodup_map_iff_sameWords
      (fun n hn => ((hvalid.families f hf).nodeTypes n hn).name.identifier)
      fun m n => Name.visitMethod_inj

/-- A registry whose names share their first words, and differ in others. -/
def plainRegistry : Registry :=
  empty.run [.family "Expr" [⟨"If", []⟩, ⟨"IfElse", []⟩] [], .family "TypeExpr" [] ["Expr"]]

/-- In that registry every derived name is there once. -/
theorem nodup_derivedNames_plainRegistry :
    plainRegistry.moduleFiles = ["expr.rs", "type_expr.rs"] ∧ plainRegistry.moduleFiles.Nodup ∧
    ∀ f ∈ plainRegistry.families, f.visitMethods.Nodup := by
  have hreachable : plainRegistry.Reachable := ⟨_, rfl⟩
  obtain ⟨hfiles, hmethods⟩ := nodup_derivedNames_iff hreachable
  have hwords : ∀ f ∈ plainRegistry.families,
      f.nodeTypes.Pairwise fun m n => ¬ Name.SameWords m.name n.name := by decide
  exact ⟨by decide, hfiles.mpr (by decide), fun f hf => (hmethods f hf).mpr (hwords f hf)⟩

/-- A registry that tells names apart by the case of letters and by an underscore. -/
def collidingRegistry : Registry :=
  empty.run [.family "API" [⟨"IfElse", []⟩, ⟨"If_Else", []⟩] [], .family "Api" [] []]

/-- **Not every registry has distinct derived names**, neither of modules nor of visitor
methods. -/
theorem not_forall_nodup_derivedNames :
    (¬ ∀ r : Registry, r.Reachable → r.moduleFiles.Nodup) ∧
    ¬ ∀ r : Registry, r.Reachable → ∀ f ∈ r.families, f.visitMethods.Nodup := by
  have hreachable : collidingRegistry.Reachable := ⟨_, rfl⟩
  constructor
  · intro h
    exact absurd (h _ hreachable) (by decide)
  · intro h
    exact absurd (h _ hreachable) (by decide)

end Registry

end TreeSmith
