import Mathlib.Data.List.Lex
import TreeSmith.Proofs.Registration

/-!
# Which families are admitted

A registry admits a family exactly when it stays valid with the family at its end, and a
refusal names the first thing that is wrong.  What can be wrong is listed here with the
place of the check: places are paths of numbers from the outside in — the part of the
family, the position in its list, the part of the element, and so on — and come in
lexicographic order.  A check that stops at the first fault then reports the violation at
the least place.

## Main definitions

* `Name.Violation`, `FieldSpec.Violation`, `NodeType.Violation`, `Registry.Violation` —
  what can be wrong, and where.
* `FirstViolation`, `Reports` — the violation at the least place, and a check that
  reports it.
* `scan` — a list checked from left to right with the names seen so far.

## Main results

* `Reports.bind`, `Reports.scan` — checks in sequence, and along a list.
* `Registry.admission_reports` — the checks of a family report its first violation.
* `Registry.define_admits` — **a family is admitted exactly when the registry stays
  valid, and otherwise the first violation is reported and nothing changes.**
-/

namespace TreeSmith

/-! ### What can be wrong -/

/-- What is wrong with a name that the generated code declares. -/
inductive Name.Violation (kind : NameKind) (name : String) : List ℕ → SchemaFault → Prop
  | invalid (h : isIdentifier name = false) : Violation kind name [0] (.invalidName kind name)
  | reserved (h : isReserved name = true ∨ isBuiltinType name = true) :
      Violation kind name [1] (.reservedName kind name)

/-- What is wrong with a field after fields with some names. -/
inductive FieldSpec.Violation (nodeType : String) (earlier : List String) (f : FieldSpec) :
    List ℕ → SchemaFault → Prop
  | name {place : List ℕ} {fault : SchemaFault} (h : Name.Violation .field f.name place fault) :
      Violation nodeType earlier f (0 :: place) fault
  | member (h : f.name = "new" ∨ f.name = "accept") :
      Violation nodeType earlier f [1] (.reservedName .field f.name)
  | type (h : Name.isIdentifier f.type = false) :
      Violation nodeType earlier f [2] (.invalidName .fieldType f.type)
  | repeated (h : f.name ∈ earlier) :
      Violation nodeType earlier f [3] (.duplicateField nodeType f.name)

/-- What is wrong with a node type of a family after node types with some names. -/
inductive NodeType.Violation (family : String) (earlier : List String) (n : NodeType) :
    List ℕ → SchemaFault → Prop
  | name {place : List ℕ} {fault : SchemaFault} (h : Name.Violation .nodeType n.name place fault) :
      Violation family earlier n (0 :: place) fault
  | repeated (h : n.name = family ∨ n.name ∈ earlier) :
      Violation family earlier n [1] (.duplicateNodeType family n.name)
  | field {i : ℕ} {f : FieldSpec} {place : List ℕ} {fault : SchemaFault}
      (hf : n.fields[i]? = some f)
      (h : f.Violation n.name ((n.fields.take i).map (·.name)) place fault) :
      Violation family earlier n (2 :: i :: place) fault

/-- What is wrong with a family that a registry is asked to take up. -/
inductive Registry.Violation (r : Registry) (name : String) (nodeTypes : List NodeType)
    (includes : List String) : List ℕ → SchemaFault → Prop
  | name {place : List ℕ} {fault : SchemaFault} (h : Name.Violation .family name place fault) :
      Violation r name nodeTypes includes (0 :: place) fault
  | snake (h : Name.isReserved (Name.snakeCase name) = true) :
      Violation r name nodeTypes includes [1] (.reservedName .family name)
  | registered (h : name ∈ r.families.map (·.name)) :
      Violation r name nodeTypes includes [2] (.duplicateFamily name)
  | included {i : ℕ} {g : String} (hg : includes[i]? = some g)
      (h : g ∉ r.families.map (·.name)) :
      Violation r name nodeTypes includes [3, i] (.unresolvedInclude name g)
  | nodeType {i : ℕ} {n : NodeType} {place : List ℕ} {fault : SchemaFault}
      (hn : nodeTypes[i]? = some n)
      (h : n.Violation name ((nodeTypes.take i).map (·.name)) place fault) :
      Violation r name nodeTypes includes (4 :: i :: place) fault

/-- Only which names came before matters, not their order. -/
theorem FieldSpec.Violation.congr {nodeType : String} {earlier earlier' : List String}
    {f : FieldSpec} {place : List ℕ} {fault : SchemaFault}
    (h : f.Violation nodeType earlier place fault) (hsame : ∀ x, x ∈ earlier ↔ x ∈ earlier') :
    f.Violation nodeType earlier' place fault := by
  cases h with
  | name h => exact .name h
  | member h => exact .member h
  | type h => exact .type h
  | repeated h => exact .repeated ((hsame _).mp h)

theorem NodeType.Violation.congr {family : String} {earlier earlier' : List String} {n : NodeType}
    {place : List ℕ} {fault : SchemaFault} (h : n.Violation family earlier place fault)
    (hsame : ∀ x, x ∈ earlier ↔ x ∈ earlier') : n.Violation family earlier' place fault := by
  cases h with
  | name h => exact .name h
  | repeated h => exact .repeated (h.imp_right (hsame _).mp)
  | field hf h => exact .field hf h

section Place

variable {place : List ℕ} {fault fault' : SchemaFault}

/-! At one place there is one fault. -/

theorem Name.Violation.unique {kind : NameKind} {name : String}
    (h : Name.Violation kind name place fault) (h' : Name.Violation kind name place fault') :
    fault = fault' := by
  cases h <;> cases h' <;> rfl

theorem FieldSpec.Violation.unique {nodeType : String} {earlier : List String} {f : FieldSpec}
    (h : f.Violation nodeType earlier place fault)
    (h' : f.Violation nodeType earlier place fault') : fault = fault' := by
  cases h with
  | name h =>
    cases h' with
    | name h' => exact h.unique h'
  | member _ => cases h'; rfl
  | type _ => cases h'; rfl
  | repeated _ => cases h'; rfl

theorem NodeType.Violation.unique {family : String} {earlier : List String} {n : NodeType}
    (h : n.Violation family earlier place fault) (h' : n.Violation family earlier place fault') :
    fault = fault' := by
  cases h with
  | name h =>
    cases h' with
    | name h' => exact h.unique h'
  | repeated _ => cases h'; rfl
  | field hf h =>
    cases h' with
    | field hf' h' =>
      obtain rfl := Option.some.inj (hf.symm.trans hf')
      exact h.unique h'

theorem Registry.Violation.unique {r : Registry} {name : String} {nodeTypes : List NodeType}
    {includes : List String} (h : r.Violation name nodeTypes includes place fault)
    (h' : r.Violation name nodeTypes includes place fault') : fault = fault' := by
  cases h with
  | name h =>
    cases h' with
    | name h' => exact h.unique h'
  | snake _ => cases h'; rfl
  | registered _ => cases h'; rfl
  | included hg _ =>
    cases h' with
    | included hg' _ => rw [Option.some.inj (hg.symm.trans hg')]
  | nodeType hn h =>
    cases h' with
    | nodeType hn' h' =>
      obtain rfl := Option.some.inj (hn.symm.trans hn')
      exact h.unique h'

end Place

/-! ### Checks that report the first violation -/

/-- The fault is that of the violation at the least place. -/
def FirstViolation (V : List ℕ → SchemaFault → Prop) (fault : SchemaFault) : Prop :=
  ∃ place, V place fault ∧ ∀ place' fault', V place' fault' → ¬ place' < place

/-- The check succeeds when there is no violation, and reports the first one otherwise. -/
def Reports (x : Except SchemaFault Unit) (V : List ℕ → SchemaFault → Prop) : Prop :=
  match x with
  | .ok () => ∀ place fault, ¬ V place fault
  | .error fault => FirstViolation V fault

/-- One violation, at the place itself. -/
def Guarded (c : Prop) (e : SchemaFault) (place : List ℕ) (fault : SchemaFault) : Prop :=
  c ∧ place = [] ∧ fault = e

/-- No violation. -/
def Nothing (_ : List ℕ) (_ : SchemaFault) : Prop :=
  False

/-- The violations of a part with the number `k`, and those of the parts after it. -/
def Part (k : ℕ) (V W : List ℕ → SchemaFault → Prop) (place : List ℕ) (fault : SchemaFault) :
    Prop :=
  (∃ rest, place = k :: rest ∧ V rest fault) ∨ W place fault

/-- All violations are of parts with numbers above `k`. -/
def After (k : ℕ) (V : List ℕ → SchemaFault → Prop) : Prop :=
  ∀ place fault, V place fault → ∃ j rest, place = j :: rest ∧ k < j

section Checks

variable {x y : Except SchemaFault Unit} {V W : List ℕ → SchemaFault → Prop} {j k : ℕ}

theorem after_nothing : After k Nothing := by
  rintro place fault ⟨⟩

theorem After.part (h : After k W) (hjk : j < k) : After j (Part k V W) := by
  rintro place fault (⟨rest, rfl, -⟩ | hW)
  · exact ⟨k, rest, rfl, hjk⟩
  · obtain ⟨i, rest, rfl, hi⟩ := h place fault hW
    exact ⟨i, rest, rfl, Nat.lt_trans hjk hi⟩

theorem Reports.congr (h : Reports x V) (hiff : ∀ place fault, V place fault ↔ W place fault) :
    Reports x W := by
  have heq : V = W := by
    funext place fault
    exact propext (hiff place fault)
  rwa [← heq]

theorem reports_ok : Reports (.ok ()) Nothing :=
  fun _ _ h => h

/-- Checks in sequence: the places of the second come after those of the first. -/
theorem Reports.bind (hx : Reports x V) (hy : x = .ok () → Reports y W) (hlate : After k W) :
    Reports (x >>= fun _ => y) (Part k V W) := by
  cases x with
  | ok u =>
    have hy : Reports y W := hy rfl
    refine Reports.congr (V := W) hy fun place fault => ?_
    constructor
    · exact .inr
    · rintro (⟨rest, -, hV⟩ | hW)
      · exact absurd hV (hx rest fault)
      · exact hW
  | error fault =>
    obtain ⟨place, hplace, hleast⟩ := hx
    refine ⟨k :: place, .inl ⟨place, rfl, hplace⟩, ?_⟩
    rintro place' fault' (⟨rest, rfl, hV⟩ | hW) hlt
    · rcases List.cons_lt_cons_iff.mp hlt with hlt | ⟨-, hlt⟩
      · exact absurd hlt (Nat.lt_irrefl k)
      · exact hleast rest fault' hV hlt
    · obtain ⟨j, rest, rfl, hj⟩ := hlate place' fault' hW
      rcases List.cons_lt_cons_iff.mp hlt with hlt | ⟨heq, -⟩
      · exact absurd hlt (Nat.lt_asymm hj)
      · exact absurd heq (Nat.ne_of_gt hj)

/-- A check that nothing follows. -/
theorem Reports.last (hx : Reports x V) : Reports x (Part k V Nothing) := by
  have hseq : x = (x >>= fun _ => .ok ()) := by
    cases x <;> rfl
  rw [hseq]
  exact hx.bind (fun _ => reports_ok) after_nothing

theorem reports_guarded {c : Prop} [Decidable c] {e : SchemaFault} :
    Reports (if c then .error e else .ok ()) (Guarded c e) := by
  split_ifs with hc
  · refine ⟨[], ⟨hc, rfl, rfl⟩, ?_⟩
    rintro place' fault' ⟨-, rfl, -⟩
    exact List.not_lt_nil []
  · rintro place fault ⟨h, -⟩
    exact hc h

/-- A guard before other checks. -/
theorem reports_guard {c : Prop} [Decidable c] {e : SchemaFault} (hy : ¬ c → Reports y W)
    (hlate : After k W) : Reports (if c then .error e else y) (Part k (Guarded c e) W) := by
  have hseq : (if c then .error e else y) = ((if c then .error e else .ok ()) >>= fun _ => y) := by
    split_ifs <;> rfl
  rw [hseq]
  refine reports_guarded.bind (fun hok => hy ?_) hlate
  intro hc
  rw [if_pos hc] at hok
  cases hok

/-- Where a place has one fault, the check reports a fault exactly when it is the first. -/
theorem Reports.eq_error_iff (h : Reports x V)
    (hunique : ∀ {place fault fault'}, V place fault → V place fault' → fault = fault')
    {fault : SchemaFault} : x = .error fault ↔ FirstViolation V fault := by
  constructor
  · rintro rfl
    exact h
  · rintro ⟨place, hplace, hleast⟩
    cases x with
    | ok u => exact absurd hplace (h place fault)
    | error fault' =>
      obtain ⟨place', hplace', hleast'⟩ := h
      -- neither place is before the other
      rcases lt_trichotomy place place' with hlt | rfl | hlt
      · exact absurd hlt (hleast' place fault hplace)
      · rw [hunique hplace hplace']
      · exact absurd hlt (hleast place' fault' hplace')

end Checks

/-! ### Lists -/

section Scan

variable {α : Type} {step : List String → α → Except SchemaFault Unit} {key : α → String}

/-- Elements checked from left to right, each with the names seen so far. -/
def scan (step : List String → α → Except SchemaFault Unit) (key : α → String) :
    List String → List α → Except SchemaFault Unit
  | _, [] => .ok ()
  | earlier, a :: more => do
    step earlier a
    scan step key (key a :: earlier) more

/-- What is wrong with the elements of a list, each after those before it. -/
def Along (V : List String → α → List ℕ → SchemaFault → Prop) (key : α → String)
    (earlier : List String) (items : List α) (place : List ℕ) (fault : SchemaFault) : Prop :=
  ∃ i a rest, items[i]? = some a ∧ place = i :: rest ∧
    V (((items.take i).map key).reverse ++ earlier) a rest fault

/-- The violations of the elements after the first are one place further on. -/
theorem along_cons {V : List String → α → List ℕ → SchemaFault → Prop} {earlier : List String}
    {a : α} {more : List α} {place : List ℕ} {fault : SchemaFault} :
    Along V key earlier (a :: more) place fault ↔
      Part 0 (V earlier a) (fun place fault => ∃ i rest, place = (i + 1) :: rest ∧
        Along V key (key a :: earlier) more (i :: rest) fault) place fault := by
  constructor
  · rintro ⟨i, b, rest, hb, rfl, hV⟩
    cases i with
    | zero =>
      obtain rfl := Option.some.inj hb
      exact .inl ⟨rest, rfl, hV⟩
    | succ i =>
      refine .inr ⟨i, rest, rfl, i, b, rest, hb, rfl, ?_⟩
      simpa using hV
  · rintro (⟨rest, rfl, hV⟩ | ⟨i, rest, rfl, i', b, rest', hb, heq, hV⟩)
    · exact ⟨0, a, rest, rfl, rfl, hV⟩
    · obtain ⟨rfl, rfl⟩ := List.cons.inj heq
      refine ⟨i + 1, b, rest, hb, rfl, ?_⟩
      simpa using hV

/-- Moving all places of a check on by one makes no difference to which comes first. -/
theorem Reports.shift {x : Except SchemaFault Unit} {V : List ℕ → SchemaFault → Prop}
    (hx : Reports x V) (hplaces : ∀ place fault, V place fault → ∃ i rest, place = i :: rest) :
    Reports x fun place fault => ∃ i rest, place = (i + 1) :: rest ∧ V (i :: rest) fault := by
  cases x with
  | ok u =>
    rintro place fault ⟨i, rest, -, hV⟩
    exact hx _ _ hV
  | error fault =>
    obtain ⟨place, hplace, hleast⟩ := hx
    obtain ⟨i, rest, rfl⟩ := hplaces place fault hplace
    refine ⟨(i + 1) :: rest, ⟨i, rest, rfl, hplace⟩, ?_⟩
    rintro place' fault' ⟨i', rest', rfl, hV⟩ hlt
    refine hleast _ fault' hV ?_
    rw [List.cons_lt_cons_iff] at hlt ⊢
    simpa using hlt

/-- A list that is checked from left to right reports the first violation of its first
element that has one. -/
theorem Reports.scan {V : List String → α → List ℕ → SchemaFault → Prop}
    (hstep : ∀ earlier a, Reports (step earlier a) (V earlier a)) (items : List α) :
    ∀ earlier, Reports (TreeSmith.scan step key earlier items) (Along V key earlier items) := by
  induction items with
  | nil =>
    rintro earlier place fault ⟨i, a, rest, ha, -⟩
    cases ha
  | cons a more ih =>
    intro earlier
    have hmore := (ih (key a :: earlier)).shift fun place fault ⟨i, _, rest, _, hplace, _⟩ =>
      ⟨i, rest, hplace⟩
    refine ((hstep earlier a).bind (fun _ => hmore) ?_).congr fun place fault => along_cons.symm
    rintro place fault ⟨i, rest, rfl, -⟩
    exact ⟨i + 1, rest, rfl, Nat.succ_pos i⟩

end Scan

namespace Registry

/-! ### The checks of a family -/

theorem checkName_reports (kind : NameKind) (name : String) :
    Reports (checkName kind name) (Name.Violation kind name) := by
  have hchecks : Reports (checkName kind name) (Part 0 _ (Part 1 _ Nothing)) :=
    reports_guard (fun _ => reports_guard (fun _ => reports_ok) after_nothing)
      (after_nothing.part Nat.zero_lt_one)
  refine hchecks.congr fun place fault => ?_
  constructor
  · rintro (⟨_, rfl, h, rfl, rfl⟩ | ⟨_, rfl, h, rfl, rfl⟩ | ⟨⟨⟩⟩)
    · exact .invalid (by simpa using h)
    · exact .reserved (by simpa using h)
  · rintro (h | h)
    · exact .inl ⟨[], rfl, by simpa using h, rfl, rfl⟩
    · exact .inr (.inl ⟨[], rfl, by simpa using h, rfl, rfl⟩)

theorem checkField_reports (nodeType : String) (earlier : List String) (f : FieldSpec) :
    Reports (checkField nodeType earlier f) (f.Violation nodeType earlier) := by
  have hchecks : Reports (checkField nodeType earlier f)
      (Part 0 _ (Part 1 _ (Part 2 _ (Part 3 _ Nothing)))) :=
    (checkName_reports .field f.name).bind
      (fun _ => reports_guard (fun _ => reports_guard (fun _ => reports_guard
        (fun _ => reports_ok) after_nothing) (after_nothing.part (by decide)))
        ((after_nothing.part (by decide)).part (by decide)))
      (((after_nothing.part (by decide)).part (by decide)).part (by decide))
  have hmember : Name.isGeneratedMember f.name = true ↔ f.name = "new" ∨ f.name = "accept" := by
    simp [Name.isGeneratedMember, Name.generatedMembers]
  refine hchecks.congr fun place fault => ?_
  constructor
  · rintro (⟨rest, rfl, h⟩ | ⟨_, rfl, h, rfl, rfl⟩ | ⟨_, rfl, h, rfl, rfl⟩ |
      ⟨_, rfl, h, rfl, rfl⟩ | ⟨⟨⟩⟩)
    · exact .name h
    · exact .member (hmember.mp h)
    · exact .type (by simpa using h)
    · exact .repeated (by simpa using h)
  · rintro (h | h | h | h)
    · exact .inl ⟨_, rfl, h⟩
    · exact .inr (.inl ⟨[], rfl, hmember.mpr h, rfl, rfl⟩)
    · exact .inr (.inr (.inl ⟨[], rfl, by simpa using h, rfl, rfl⟩))
    · exact .inr (.inr (.inr (.inl ⟨[], rfl, by simpa using h, rfl, rfl⟩)))

theorem checkFields_eq_scan (nodeType : String) (fields : List FieldSpec) :
    ∀ earlier, checkFields nodeType earlier fields =
      scan (checkField nodeType) (·.name) earlier fields := by
  induction fields with
  | nil => intro earlier; rfl
  | cons f more ih => intro earlier; rw [checkFields, scan, ih]

/-- One node type of a family, after node types with some names. -/
def checkNodeType (family : String) (earlier : List String) (n : NodeType) :
    Except SchemaFault Unit := do
  checkName .nodeType n.name
  if n.name = family || earlier.contains n.name then .error (.duplicateNodeType family n.name)
  checkFields n.name [] n.fields

theorem checkNodeTypes_eq_scan (family : String) (nodeTypes : List NodeType) :
    ∀ earlier, checkNodeTypes family earlier nodeTypes =
      scan (checkNodeType family) (·.name) earlier nodeTypes := by
  induction nodeTypes with
  | nil => intro earlier; rfl
  | cons n more ih =>
    intro earlier
    rw [checkNodeTypes, scan, checkNodeType, ih, bind_assoc]
    congr 1
    funext _
    split_ifs <;> rfl

theorem checkNodeType_reports (family : String) (earlier : List String) (n : NodeType) :
    Reports (checkNodeType family earlier n) (n.Violation family earlier) := by
  have hfields : Reports (checkFields n.name [] n.fields) _ :=
    checkFields_eq_scan n.name n.fields [] ▸ Reports.scan (checkField_reports n.name) n.fields []
  have hchecks : Reports (checkNodeType family earlier n)
      (Part 0 _ (Part 1 _ (Part 2 _ Nothing))) :=
    (checkName_reports .nodeType n.name).bind
      (fun _ => reports_guard (fun _ => hfields.last) (after_nothing.part (by decide)))
      ((after_nothing.part (by decide)).part (by decide))
  refine hchecks.congr fun place fault => ?_
  constructor
  · rintro (⟨rest, rfl, h⟩ | ⟨_, rfl, h, rfl, rfl⟩ | ⟨_, rfl, i, f, rest, hf, rfl, h⟩ | ⟨⟨⟩⟩)
    · exact .name h
    · exact .repeated (by simpa using h)
    · exact .field hf (h.congr (by simp))
  · rintro (h | h | ⟨hf, h⟩)
    · exact .inl ⟨_, rfl, h⟩
    · exact .inr (.inl ⟨[], rfl, by simpa using h, rfl, rfl⟩)
    · exact .inr (.inr (.inl ⟨_, rfl, _, _, _, hf, rfl, h.congr (by simp)⟩))

theorem checkIncludes_eq_scan (r : Registry) (family : String) (includes : List String) :
    ∀ earlier, checkIncludes r family includes = scan (fun _ g =>
      if (r.family? g).isNone then .error (.unresolvedInclude family g) else .ok ()) id
        earlier includes := by
  induction includes with
  | nil => intro earlier; rfl
  | cons g more ih =>
    intro earlier
    rw [checkIncludes, scan, ih (id g :: earlier)]
    split_ifs <;> rfl

/-- All checks of a family, in order. -/
def admission (r : Registry) (name : String) (nodeTypes : List NodeType) (includes : List String) :
    Except SchemaFault Unit := do
  checkName .family name
  if Name.isReservedFamily name then .error (.reservedName .family name)
  if (r.family? name).isSome then .error (.duplicateFamily name)
  checkIncludes r name includes
  checkNodeTypes name [] nodeTypes

/-- The registry with a family at its end. -/
def withFamily (r : Registry) (f : Family) : Registry :=
  { r with families := r.families ++ [f] }

variable {r : Registry} {name : String} {nodeTypes : List NodeType} {includes : List String}

theorem define_eq_admission (r : Registry) (name : String) (nodeTypes : List NodeType)
    (includes : List String) :
    r.define name nodeTypes includes = (r.admission name nodeTypes includes >>= fun _ =>
      .ok (r.withFamily ⟨name, nodeTypes, distinct includes⟩)) := by
  rw [define, checkFamilyName, admission, bind_assoc, bind_assoc]
  congr 1
  funext _
  split_ifs
  · rfl
  · rfl
  · rfl
  · exact (bind_assoc (checkIncludes r name includes) _ _).symm

/-- The checks report the first violation of a family. -/
theorem admission_reports (r : Registry) (name : String) (nodeTypes : List NodeType)
    (includes : List String) :
    Reports (r.admission name nodeTypes includes) (r.Violation name nodeTypes includes) := by
  have hincludes : Reports (checkIncludes r name includes) _ :=
    checkIncludes_eq_scan r name includes [] ▸ Reports.scan (fun _ _ => reports_guarded) includes []
  have hnodes : Reports (checkNodeTypes name [] nodeTypes) _ :=
    checkNodeTypes_eq_scan name nodeTypes [] ▸
      Reports.scan (checkNodeType_reports name) nodeTypes []
  have hmissing : ∀ g, (r.family? g).isNone = true ↔ g ∉ r.families.map (·.name) := by
    intro g
    rw [← isSome_family?, Option.isNone_iff_eq_none, Option.not_isSome_iff_eq_none]
  have hchecks : Reports (r.admission name nodeTypes includes)
      (Part 0 (Name.Violation .family name)
        (Part 1
          (Guarded (Name.isReserved (Name.snakeCase name) = true) (.reservedName .family name))
          (Part 2 (Guarded ((r.family? name).isSome = true) (.duplicateFamily name))
            (Part 3 (Along (fun _ g => Guarded ((r.family? g).isNone = true)
                (.unresolvedInclude name g)) id [] includes)
              (Part 4 (Along (NodeType.Violation name) (·.name) [] nodeTypes) Nothing))))) := by
    refine (checkName_reports .family name).bind (fun hname => ?_)
      ((((after_nothing.part (by decide)).part (by decide)).part (by decide)).part (by decide))
    -- a name that passed is not reserved itself
    have hsnake : Name.isReservedFamily name = Name.isReserved (Name.snakeCase name) := by
      rw [Name.isReservedFamily, (checkName_eq_ok.mp hname).not_reserved, Bool.false_or]
    rw [hsnake]
    exact reports_guard (fun _ => reports_guard (fun _ => hincludes.bind (fun _ => hnodes.last)
      (after_nothing.part (by decide))) ((after_nothing.part (by decide)).part (by decide)))
      (((after_nothing.part (by decide)).part (by decide)).part (by decide))
  refine hchecks.congr fun place fault => ?_
  constructor
  · rintro (⟨rest, rfl, h⟩ | ⟨_, rfl, h, rfl, rfl⟩ | ⟨_, rfl, h, rfl, rfl⟩ |
      ⟨_, rfl, i, g, _, hg, rfl, h, rfl, rfl⟩ | ⟨_, rfl, i, n, rest, hn, rfl, h⟩ | ⟨⟨⟩⟩)
    · exact .name h
    · exact .snake h
    · exact .registered (isSome_family?.mp h)
    · exact .included hg ((hmissing g).mp h)
    · exact .nodeType hn (h.congr (by simp))
  · rintro (h | h | h | ⟨hg, h⟩ | ⟨hn, h⟩)
    · exact .inl ⟨_, rfl, h⟩
    · exact .inr (.inl ⟨[], rfl, h, rfl, rfl⟩)
    · exact .inr (.inr (.inl ⟨[], rfl, isSome_family?.mpr h, rfl, rfl⟩))
    · exact .inr (.inr (.inr (.inl ⟨_, rfl, _, _, [], hg, rfl, (hmissing _).mpr h, rfl, rfl⟩)))
    · exact .inr (.inr (.inr (.inr (.inl ⟨_, rfl, _, _, _, hn, rfl, h.congr (by simp)⟩))))

/-! ### Families that keep a registry valid -/

theorem valid_withFamily {f : Family} (hr : r.Valid) :
    (r.withFamily f).Valid ↔ f.Valid ∧ f.name ∉ r.families.map (·.name) ∧
      ∀ g ∈ f.includes, g ∈ r.families.map (·.name) := by
  constructor
  · intro h
    have hlast : (r.withFamily f).families[r.families.length]? = some f := by
      simp [withFamily]
    refine ⟨h.families f (by simp [withFamily]), ?_, ?_⟩
    · have hnodup := h.families_nodup
      rw [withFamily, List.map_append, List.nodup_append] at hnodup
      intro hmem
      exact hnodup.2.2 _ hmem _ (by simp) rfl
    · intro g hg
      obtain ⟨j, hj, e, he, hname⟩ := h.includes_earlier _ f hlast g hg
      rw [withFamily, List.getElem?_append_left hj] at he
      exact List.mem_map.mpr ⟨e, List.mem_of_getElem? he, hname⟩
  · rintro ⟨hf, hnew, hincludes⟩
    exact hr.append hf hnew hincludes

/-- **A family is admitted exactly when the registry stays valid with it.**  The registry
is then the one with the family at its end; otherwise the first violation is reported, and
nothing changes. -/
theorem define_admits (hr : r.Reachable) (name : String) (nodeTypes : List NodeType)
    (includes : List String) :
    ((∃ r', r.define name nodeTypes includes = .ok r') ↔
      (r.withFamily ⟨name, nodeTypes, distinct includes⟩).Valid) ∧
    (∀ r', r.define name nodeTypes includes = .ok r' →
      r' = r.withFamily ⟨name, nodeTypes, distinct includes⟩ ∧
        r.after (.family name nodeTypes includes) = r') ∧
    (∀ fault, r.define name nodeTypes includes = .error fault ↔
      FirstViolation (r.Violation name nodeTypes includes) fault) ∧
    ∀ fault, r.define name nodeTypes includes = .error fault →
      r.after (.family name nodeTypes includes) = r := by
  refine ⟨?_, ?_, ?_, ?_⟩
  · rw [valid_withFamily hr.valid]
    constructor
    · rintro ⟨r', h⟩
      obtain ⟨⟨hname, hsnake⟩, hnew, hincludes, ⟨hnodes, hnodup⟩, -⟩ := define_eq_ok.mp h
      exact ⟨⟨hname, hsnake, nodup_distinct includes, fun n hn => (hnodes n hn).1, hnodup,
        fun n hn => (hnodes n hn).2⟩, hnew, fun g hg => hincludes g (mem_distinct.mp hg)⟩
    · rintro ⟨hf, hnew, hincludes⟩
      exact ⟨_, define_eq_ok.mpr ⟨⟨hf.name, hf.snake⟩, hnew,
        fun g hg => hincludes g (mem_distinct.mpr hg),
        ⟨fun n hn => ⟨hf.nodeTypes n hn, hf.nodeTypes_ne n hn⟩, hf.nodeTypes_nodup⟩, rfl⟩⟩
  · intro r' h
    obtain ⟨-, -, -, -, heq⟩ := define_eq_ok.mp h
    refine ⟨heq, ?_⟩
    rw [after, register, h]
  · intro fault
    rw [← (admission_reports r name nodeTypes includes).eq_error_iff Violation.unique,
      define_eq_admission]
    cases r.admission name nodeTypes includes with
    | ok u => exact iff_of_false (fun h => nomatch h) (fun h => nomatch h)
    | error fault' => simp
  · intro fault h
    rw [after, register, h]

/-- A registry with one family. -/
def exprRegistry : Registry :=
  empty.run [.family "Expr" [⟨"Unary", [.subtree "Expr" "right"]⟩] []]

/-- Node types in which a field comes twice. -/
def repeatingNodes : List NodeType :=
  [⟨"Print", [.subtree "Expr" "expr"]⟩, ⟨"Pair", [.subtree "Expr" "left", .subtree "Expr" "left"]⟩]

/-- A missing family is reported before a repeated field, the first of several missing ones
comes first, and without the missing ones the field is reported; without the second field
the family is admitted, with what it includes once. -/
theorem define_admits_exprRegistry :
    exprRegistry.Reachable ∧
    FirstViolation (exprRegistry.Violation "Stmt" repeatingNodes ["Expr", "Type", "Decl"])
      (.unresolvedInclude "Stmt" "Type") ∧
    FirstViolation (exprRegistry.Violation "Stmt" repeatingNodes ["Expr"])
      (.duplicateField "Pair" "left") ∧
    (exprRegistry.withFamily ⟨"Stmt", repeatingNodes.take 1, ["Expr"]⟩).Valid := by
  have hr : exprRegistry.Reachable := ⟨_, rfl⟩
  refine ⟨hr, ?_, ?_, ?_⟩
  · exact ((define_admits hr "Stmt" repeatingNodes ["Expr", "Type", "Decl"]).2.2.1 _).mp rfl
  · exact ((define_admits hr "Stmt" repeatingNodes ["Expr"]).2.2.1 _).mp rfl
  · exact (define_admits hr "Stmt" (repeatingNodes.take 1) ["Expr", "Expr"]).1.mp ⟨_, rfl⟩

end Registry

end TreeSmith
