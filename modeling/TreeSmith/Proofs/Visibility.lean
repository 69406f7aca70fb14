import Mathlib.Data.List.Induction
import TreeSmith.Proofs.Resolution

/-!
# Names that are seen, found and suggested

Looking a name up and listing the visible names go through the scopes of a family in
two different ways.  They agree: a name is found exactly when it is listed, and what is
found is what the first place in the list stands for.  A suggestion is taken from the
same list, whatever the names are scored by, so it can always be found, and it is never
the name that could not be.

## Main definitions

* `FirstBest` — the first candidate with the highest score.
* `scoresBy`, `Registry.suggestBy` — scores and suggestions by any matcher.

## Main results

* `Registry.lookup_eq_find?` — looking up is searching the visible types.
* `foldl_better`, `firstBest_eq_some`, `firstBest_eq_none` — what the running maximum
  arrives at.
* `Registry.lookup_visible_suggest` — **look-up, list and suggestion agree.**
-/

namespace TreeSmith

/-! ### Searching a list by names -/

/-- Searching for a name is going to the first place of the name. -/
theorem find?_eq_getElem?_idxOf {α : Type} (key : α → String) (name : String) (items : List α) :
    items.find? (key · == name) = items[(items.map key).idxOf name]? := by
  induction items with
  | nil => rfl
  | cons a items ih =>
    rw [List.map_cons, List.idxOf_cons, List.find?_cons]
    cases h : key a == name with
    | true => simp
    | false => simpa using ih

theorem find?_isSome_iff_mem_map {α : Type} {key : α → String} {name : String} {items : List α} :
    (items.find? (key · == name)).isSome ↔ name ∈ items.map key := by
  rw [List.find?_isSome, List.mem_map]
  simp only [beq_iff_eq]

/-! ### Looking up in the scopes -/

theorem Family.lookup_eq_find? (f : Family) (name : String) :
    f.lookup name = f.types.find? (·.name == name) := by
  have hnodes : (f.nodeTypes.map (TypeRef.node f)).find? (·.name == name) =
      (f.nodeType? name).map (.node f) := by
    rw [List.find?_map]
    rfl
  unfold Family.lookup Family.types
  rw [List.find?_cons, hnodes]
  simp only [TypeRef.name]
  by_cases h : f.name = name
  · rw [if_pos h, beq_iff_eq.mpr h]
  · rw [if_neg h, beq_eq_false_iff_ne.mpr h]

namespace Registry

theorem lookupIncluded_eq_find? (r : Registry) (name : String) (includes : List String) :
    r.lookupIncluded name includes =
      ((includes.filterMap r.family?).flatMap Family.types).find? (·.name == name) := by
  induction includes with
  | nil => rfl
  | cons g more ih =>
    rw [lookupIncluded, ih, List.filterMap_cons]
    cases r.family? g with
    | none => rfl
    | some f =>
      rw [Option.bind_some, Family.lookup_eq_find?, List.flatMap_cons, List.find?_append]

/-- Looking a name up is searching everything that the family sees. -/
theorem lookup_eq_find? (r : Registry) (f : Family) (name : String) :
    r.lookup f name = (r.visible f).find? (·.name == name) := by
  have hvalues : (r.valueTypes.map TypeRef.value).find? (·.name == name) =
      (r.valueType? name).map .value := by
    rw [List.find?_map]
    rfl
  rw [lookup, Family.lookup_eq_find?, lookupIncluded_eq_find?, visible, scopes, List.flatMap_cons,
    List.find?_append, List.find?_append, hvalues]

theorem isSome_lookup {r : Registry} {f : Family} {name : String} :
    (r.lookup f name).isSome ↔ name ∈ r.visibleNames f := by
  rw [lookup_eq_find?, visibleNames]
  exact find?_isSome_iff_mem_map

end Registry

/-! ### The first of the best -/

/-- The candidate has the highest score of all that have one, and the candidates before
it that have one score less. -/
def FirstBest (candidates : List (String × Option Int)) (name : String) (top : Int) : Prop :=
  ∃ before after, candidates = before ++ (name, some top) :: after ∧
    (∀ c ∈ before, ∀ score, c.2 = some score → score < top) ∧
    ∀ c ∈ after, ∀ score, c.2 = some score → score ≤ top

/-- The state of the running maximum after some candidates. -/
theorem foldl_better (candidates : List (String × Option Int)) :
    match candidates.foldl better none with
    | none => ∀ c ∈ candidates, c.2 = none
    | some (name, top) => FirstBest candidates name top := by
  -- the candidates seen so far grow at the end
  induction candidates using List.reverseRecOn with
  | nil => simp
  | append_singleton seen c ih =>
    obtain ⟨candidate, score?⟩ := c
    rw [List.foldl_append, List.foldl_cons, List.foldl_nil]
    cases hbest : seen.foldl better none with
    | none =>
      rw [hbest] at ih
      cases score? with
      | none =>
        intro c hc
        rcases List.mem_append.mp hc with hc | hc
        · exact ih c hc
        · rw [List.mem_singleton.mp hc]
      | some score =>
        refine ⟨seen, [], rfl, ?_, by simp⟩
        intro c hc s hs
        rw [ih c hc] at hs
        cases hs
    | some best =>
      obtain ⟨name, top⟩ := best
      rw [hbest] at ih
      obtain ⟨before, after, hseen, hbefore, hafter⟩ := ih
      -- a candidate that does not score higher goes to those after the best
      have hkept : (∀ score, score? = some score → score ≤ top) →
          FirstBest (seen ++ [(candidate, score?)]) name top := by
        intro hlow
        refine ⟨before, after ++ [(candidate, score?)], by simp [hseen], hbefore, ?_⟩
        intro c hc s hs
        rcases List.mem_append.mp hc with hc | hc
        · exact hafter c hc s hs
        · rw [List.mem_singleton.mp hc] at hs
          exact hlow s hs
      cases score? with
      | none => exact hkept fun s hs => nomatch hs
      | some score =>
        have hstep : better (some (name, top)) (candidate, some score) =
            if top < score then some (candidate, score) else some (name, top) := rfl
        rw [hstep]
        split_ifs with hlt
        · -- a better one has all of the others before it
          refine ⟨seen, [], rfl, ?_, by simp⟩
          intro c hc s hs
          rw [hseen, List.mem_append, List.mem_cons] at hc
          rcases hc with hc | rfl | hc
          · exact Int.lt_trans (hbefore c hc s hs) hlt
          · cases hs
            exact hlt
          · exact Int.lt_of_le_of_lt (hafter c hc s hs) hlt
        · refine hkept fun s hs => ?_
          cases hs
          exact Int.not_lt.mp hlt

/-- Only one candidate is the first of the best. -/
theorem FirstBest.unique {candidates : List (String × Option Int)} {name name' : String}
    {top top' : Int} (h : FirstBest candidates name top) (h' : FirstBest candidates name' top') :
    name = name' := by
  obtain ⟨before, after, rfl, hbefore, hafter⟩ := h
  obtain ⟨before', after', heq, hbefore', hafter'⟩ := h'
  rcases List.append_eq_append_iff.mp heq with ⟨mid, rfl, hmid⟩ | ⟨mid, rfl, hmid⟩
  · cases mid with
    | nil => exact (Prod.mk.inj (List.cons.inj hmid).1).1
    | cons c mid =>
      -- the first one stands before the second, and the second comes after the first
      obtain ⟨rfl, rfl⟩ := List.cons.inj hmid
      have hlt : top < top' := hbefore' (name, some top) (by simp) top rfl
      have hle : top' ≤ top := hafter (name', some top') (by simp) top' rfl
      omega
  · cases mid with
    | nil => exact (Prod.mk.inj (List.cons.inj hmid).1).1.symm
    | cons c mid =>
      obtain ⟨rfl, rfl⟩ := List.cons.inj hmid
      have hlt : top' < top := hbefore (name', some top') (by simp) top' rfl
      have hle : top ≤ top' := hafter' (name, some top) (by simp) top rfl
      omega

theorem firstBest_eq_some {candidates : List (String × Option Int)} {name : String} :
    firstBest candidates = some name ↔ ∃ top, FirstBest candidates name top := by
  have hfold := foldl_better candidates
  unfold firstBest
  cases hbest : candidates.foldl better none with
  | none =>
    rw [hbest] at hfold
    constructor
    · intro h
      cases h
    · rintro ⟨top, before, after, hcandidates, -, -⟩
      have hnone := hfold (name, some top) (by simp [hcandidates])
      cases hnone
  | some best =>
    rw [hbest] at hfold
    constructor
    · intro h
      cases h
      exact ⟨best.2, hfold⟩
    · rintro ⟨top, htop⟩
      exact congrArg some (hfold.unique htop)

theorem firstBest_eq_none {candidates : List (String × Option Int)} :
    firstBest candidates = none ↔ ∀ c ∈ candidates, c.2 = none := by
  have hfold := foldl_better candidates
  unfold firstBest
  cases hbest : candidates.foldl better none with
  | none =>
    rw [hbest] at hfold
    exact iff_of_true rfl hfold
  | some best =>
    rw [hbest] at hfold
    obtain ⟨before, after, hcandidates, -, -⟩ := hfold
    constructor
    · intro h
      cases h
    · intro hnone
      have hsome := hnone (best.1, some best.2) (by simp [hcandidates])
      cases hsome

/-! ### Suggestions -/

section Matcher

variable {σ : Type}

/-- The scores of names in order, by a matcher that may hand something on from name to
name. -/
def scoresBy (score : σ → String → σ × Option Int) : σ → List String → List (Option Int)
  | _, [] => []
  | state, name :: names => (score state name).2 :: scoresBy score (score state name).1 names

theorem length_scoresBy (score : σ → String → σ × Option Int) (state : σ) (names : List String) :
    (scoresBy score state names).length = names.length := by
  induction names generalizing state with
  | nil => rfl
  | cons name names ih => rw [scoresBy, List.length_cons, List.length_cons, ih]

/-- The matcher for a pattern, which hands its cells on. -/
def Similarity.matcher (pattern : String) (cells : Array Similarity.Cell) (name : String) :
    Array Similarity.Cell × Option Int :=
  Similarity.score pattern.toList cells name.toList

theorem Similarity.scores_eq_scoresBy (pattern : String) (names : List String) :
    Similarity.scores pattern names = scoresBy (Similarity.matcher pattern) #[] names := by
  unfold Similarity.scores
  generalize (#[] : Array Similarity.Cell) = cells
  induction names generalizing cells with
  | nil => rfl
  | cons name names ih =>
    rw [Similarity.scoresFrom, scoresBy]
    exact congrArg _ (ih _)

namespace Registry

/-- The visible name that a matcher scores highest, the first of several alike. -/
def suggestBy (r : Registry) (f : Family) (score : σ → String → σ × Option Int) (start : σ) :
    Option String :=
  firstBest ((r.visibleNames f).zip (scoresBy score start (r.visibleNames f)))

theorem suggest_eq_suggestBy (r : Registry) (f : Family) (name : String) :
    r.suggest f name = r.suggestBy f (Similarity.matcher name) #[] := by
  rw [suggest, suggestBy, ← Similarity.scores_eq_scoresBy]

variable {r : Registry} {f : Family} {score : σ → String → σ × Option Int} {start : σ}

theorem suggestBy_eq_none : r.suggestBy f score start = none ↔
    ∀ s ∈ scoresBy score start (r.visibleNames f), s = none := by
  have hscores : ((r.visibleNames f).zip (scoresBy score start (r.visibleNames f))).map Prod.snd =
      scoresBy score start (r.visibleNames f) :=
    List.map_snd_zip (Nat.le_of_eq (length_scoresBy score start _))
  rw [suggestBy, firstBest_eq_none]
  constructor
  · intro hnone s hs
    rw [← hscores, List.mem_map] at hs
    obtain ⟨c, hc, rfl⟩ := hs
    exact hnone c hc
  · intro hnone c hc
    refine hnone c.2 ?_
    rw [← hscores]
    exact List.mem_map_of_mem hc

theorem mem_visibleNames_of_suggestBy {name : String}
    (h : r.suggestBy f score start = some name) : name ∈ r.visibleNames f := by
  obtain ⟨top, before, after, hzip, -, -⟩ := firstBest_eq_some.mp h
  have hmem : (name, some top) ∈
      (r.visibleNames f).zip (scoresBy score start (r.visibleNames f)) := by
    rw [hzip]
    simp
  exact (List.of_mem_zip hmem).1

/-- What cannot be found is not suggested. -/
theorem suggestBy_ne_of_lookup_eq_none {name : String} (h : r.lookup f name = none) :
    r.suggestBy f score start ≠ some name := by
  intro hsuggest
  have hfound := isSome_lookup.mpr (mem_visibleNames_of_suggestBy hsuggest)
  rw [h] at hfound
  cases hfound

/-! ### Types that are not known -/

variable {policy : Ownership}

theorem fieldKind_eq_error {nodeType : String} {fs : FieldSpec} {ty : TypeRef} {fault : SchemaFault}
    (h : fieldKind nodeType fs policy ty = .error fault) :
    ∃ reason, fault = .invalidTreeReference nodeType fs.name reason := by
  cases ty with
  | value v =>
    rw [fieldKind] at h
    split_ifs at h <;> cases h <;> exact ⟨_, rfl⟩
  | base g =>
    rw [fieldKind] at h
    split_ifs at h
    cases h
    exact ⟨_, rfl⟩
  | node g n =>
    rw [fieldKind] at h
    split_ifs at h
    cases h
    exact ⟨_, rfl⟩

theorem resolveField_eq_unknownFieldType {nodeType node field type : String} {fs : FieldSpec}
    {suggestion : Option String} (h : r.resolveField f policy nodeType fs =
      .error (.unknownFieldType node field type suggestion)) :
    r.lookup f type = none ∧ suggestion = r.suggest f type := by
  unfold resolveField at h
  split at h
  · next hnone =>
    cases h
    exact ⟨hnone, rfl⟩
  · next ty hty =>
    -- the faults of a type that does not fit are of another kind
    cases hkind : fieldKind nodeType fs policy ty with
    | ok kind =>
      rw [hkind] at h
      cases h
    | error fault =>
      obtain ⟨reason, rfl⟩ := fieldKind_eq_error hkind
      rw [hkind] at h
      cases h

/-- A fault of the fields is the fault of one of them. -/
theorem resolveFields_eq_error {nodeType : String} {fields : List FieldSpec} {fault : SchemaFault}
    (h : r.resolveFields f policy nodeType fields = .error fault) :
    ∃ fs ∈ fields, r.resolveField f policy nodeType fs = .error fault := by
  induction fields with
  | nil => cases h
  | cons fs more ih =>
    rw [resolveFields] at h
    cases hfirst : r.resolveField f policy nodeType fs with
    | error first =>
      rw [hfirst] at h
      cases h
      exact ⟨fs, List.mem_cons_self, hfirst⟩
    | ok resolved =>
      rw [hfirst, ok_bind] at h
      cases hmore : r.resolveFields f policy nodeType more with
      | error later =>
        rw [hmore] at h
        cases h
        obtain ⟨fs', hfs', hfault⟩ := ih hmore
        exact ⟨fs', List.mem_cons_of_mem _ hfs', hfault⟩
      | ok rest =>
        rw [hmore] at h
        cases h

/-- A fault of the node types is the fault of one of them. -/
theorem resolveNodes_eq_error {nodeTypes : List NodeType} {fault : SchemaFault}
    (h : r.resolveNodes f policy nodeTypes = .error fault) :
    ∃ n ∈ nodeTypes, r.resolve f policy n = .error fault := by
  induction nodeTypes with
  | nil => cases h
  | cons n more ih =>
    rw [resolveNodes] at h
    cases hfirst : r.resolve f policy n with
    | error first =>
      rw [hfirst] at h
      cases h
      exact ⟨n, List.mem_cons_self, hfirst⟩
    | ok fields =>
      rw [hfirst, ok_bind] at h
      cases hmore : r.resolveNodes f policy more with
      | error later =>
        rw [hmore] at h
        cases h
        obtain ⟨n', hn', hfault⟩ := ih hmore
        exact ⟨n', List.mem_cons_of_mem _ hn', hfault⟩
      | ok rest =>
        rw [hmore] at h
        cases h

/-- **Look-up, list and suggestion agree.**  A type name is found exactly when it is
visible, and what is found is what its first place among the visible names stands for.
Whatever scores the names, the suggestion is the first visible name with the highest
score, and none when no name has a score; so a suggestion is always found, and a type that
could not be found is never suggested in its own report. -/
theorem lookup_visible_suggest (r : Registry) (f : Family) (type : String)
    (score : σ → String → σ × Option Int) (start : σ) :
    ((r.lookup f type).isSome ↔ type ∈ r.visibleNames f) ∧
    r.lookup f type = (r.visible f)[(r.visibleNames f).idxOf type]? ∧
    (∀ name, r.suggestBy f score start = some name ↔ ∃ top,
      FirstBest ((r.visibleNames f).zip (scoresBy score start (r.visibleNames f))) name top) ∧
    (r.suggestBy f score start = none ↔ ∀ s ∈ scoresBy score start (r.visibleNames f), s = none) ∧
    (∀ name, r.suggestBy f score start = some name → (r.lookup f name).isSome) ∧
    (r.lookup f type = none → r.suggestBy f score start ≠ some type) ∧
    r.suggest f type = r.suggestBy f (Similarity.matcher type) #[] ∧
    (∀ policy n node field suggestion, r.resolve f policy n =
      .error (.unknownFieldType node field type (some suggestion)) →
        suggestion ≠ type ∧ (r.lookup f suggestion).isSome) ∧
    ∀ settings node field suggestion, r.defineFamily settings f =
      .error (.unknownFieldType node field type (some suggestion)) →
        suggestion ≠ type ∧ (r.lookup f suggestion).isSome := by
  -- a report of an unknown type holds the suggestion for it
  have hreport : ∀ policy (n : NodeType) node field suggestion, r.resolve f policy n =
      .error (.unknownFieldType node field type (some suggestion)) →
        suggestion ≠ type ∧ (r.lookup f suggestion).isSome := by
    intro policy n node field suggestion h
    obtain ⟨fs, -, hfault⟩ := resolveFields_eq_error h
    obtain ⟨hnone, hsuggest⟩ := resolveField_eq_unknownFieldType hfault
    rw [suggest_eq_suggestBy] at hsuggest
    constructor
    · rintro rfl
      exact suggestBy_ne_of_lookup_eq_none hnone hsuggest.symm
    · exact isSome_lookup.mpr (mem_visibleNames_of_suggestBy hsuggest.symm)
  refine ⟨isSome_lookup, ?_, fun name => firstBest_eq_some, suggestBy_eq_none,
    fun name h => isSome_lookup.mpr (mem_visibleNames_of_suggestBy h),
    suggestBy_ne_of_lookup_eq_none, suggest_eq_suggestBy r f type, hreport, ?_⟩
  · rw [lookup_eq_find?, visibleNames]
    exact find?_eq_getElem?_idxOf TypeRef.name type (r.visible f)
  · intro settings node field suggestion h
    rw [defineFamily] at h
    cases hnodes : r.resolveNodes f (settings.policyFor f.name) f.nodeTypes with
    | error fault =>
      rw [hnodes] at h
      cases h
      obtain ⟨n, -, hfault⟩ := resolveNodes_eq_error hnodes
      exact hreport _ n node field suggestion hfault
    | ok nodes =>
      rw [hnodes] at h
      cases h

end Registry

end Matcher

end TreeSmith
