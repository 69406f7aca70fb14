import TreeSmith.Definition.Bindings
import TreeSmith.Proofs.DerivedNames
import TreeSmith.Proofs.Imports

/-!
# Snake case

Snake case goes through a name from left to right, and what it writes for a character
depends on this character and on the kind of the one before it.  So every law of snake
case has two parts, one about a character and one about the whole name.

For any text, what comes out holds neither capital letters nor blanks or hyphens, is its
own snake case, and has the letters and digits of the text in small letters.  An
identifier stays one.  A family is refused when the snake case of its name is a reserved
word, so the generated code can declare the names that are derived from a registered
family.

In a camel-case name every capital letter starts a word.  There snake case loses nothing:
capital letters go to the front and behind the underscores, and the name is back.

## Main definitions

* `Name.snakeLetter` — what snake case writes for a character.
* `Name.IsSettled` — a character that snake case writes as it is.
* `Family.DerivedDeclarable` — the derived names of a family can be declared.
* `Name.IsCamel`, `Name.camelCase` — camel-case names, and reading one back.

## Main results

* `Name.snakeFrom_cons` — snake case is written character by character.
* `Name.filter_snakeFrom` — underscores apart, it keeps letters and digits in small.
* `Name.isIdentifier_snakeCase` — identifiers stay identifiers.
* `Family.Valid.derivedDeclarable` — the derived names of a valid family can be declared.
* `snakeCase_legal` — **snake case keeps derived names legal.**
* `Name.camelCase_snakeCase` — a camel-case name is read back from its snake case.
* `Name.eq_of_derived_eq` — **camel-case names with a common derived name are equal.**
-/

namespace TreeSmith

namespace Name

/-! ### One character -/

/-- What snake case writes for a character; `small` says that a small letter or digit came
before. -/
def snakeLetter (small : Bool) (c : Char) : List Char :=
  if c.isUpper then if small then ['_', c.toLower] else [c.toLower]
  else if c = '-' || c = ' ' then ['_']
  else [c]

/-- The character is no capital letter, hyphen or blank. -/
structure IsSettled (c : Char) : Prop where
  not_upper : c.isUpper = false
  ne_hyphen : c ≠ '-'
  ne_blank : c ≠ ' '

theorem snakeLetter_of_isUpper {c : Char} (h : c.isUpper = true) (small : Bool) :
    snakeLetter small c = (if small then ['_'] else []) ++ [c.toLower] := by
  cases small <;> simp [snakeLetter, h]

theorem snakeLetter_of_isSettled {c : Char} (h : IsSettled c) (small : Bool) :
    snakeLetter small c = [c] := by
  simp [snakeLetter, h.not_upper, h.ne_hyphen, h.ne_blank]

/-- The kinds of characters: capital letters, hyphen and blank, and all others. -/
theorem isUpper_or_blank_or_isSettled (c : Char) :
    c.isUpper = true ∨ (c = '-' ∨ c = ' ') ∨ IsSettled c := by
  by_cases hup : c.isUpper = true
  · exact .inl hup
  · by_cases hblank : c = '-' ∨ c = ' '
    · exact .inr (.inl hblank)
    · rw [not_or] at hblank
      exact .inr (.inr ⟨by simpa using hup, hblank.1, hblank.2⟩)

theorem isSettled_underscore : IsSettled '_' :=
  ⟨rfl, by decide, by decide⟩

theorem isSettled_toLower {c : Char} (h : c.isUpper = true) : IsSettled c.toLower := by
  have hlower : c.toLower.isLower = true := by
    rw [Char.isLower_toLower_eq_isAlpha, Char.isAlpha, h, Bool.true_or]
  refine ⟨Char.isUpper_toLower_eq_false c, ?_, ?_⟩
  · intro heq
    rw [heq] at hlower
    exact absurd hlower (by decide)
  · intro heq
    rw [heq] at hlower
    exact absurd hlower (by decide)

/-- Snake case writes settled characters only. -/
theorem isSettled_of_mem_snakeLetter {small : Bool} {c d : Char} (h : d ∈ snakeLetter small c) :
    IsSettled d := by
  rcases isUpper_or_blank_or_isSettled c with hup | hblank | hsettled
  · rw [snakeLetter_of_isUpper hup, List.mem_append, List.mem_singleton] at h
    rcases h with h | rfl
    · cases small with
      | true => rw [List.mem_singleton.mp h]; exact isSettled_underscore
      | false => cases h
    · exact isSettled_toLower hup
  · have hwrites : snakeLetter small c = ['_'] := by rcases hblank with rfl | rfl <;> rfl
    rw [hwrites, List.mem_singleton] at h
    rw [h]
    exact isSettled_underscore
  · rw [snakeLetter_of_isSettled hsettled, List.mem_singleton] at h
    rw [h]
    exact hsettled

/-- Without underscores, what is written for a character is the character in small, unless
it separates words. -/
theorem filter_snakeLetter (small : Bool) (c : Char) :
    (snakeLetter small c).filter (· ≠ '_') =
      ([c].filter (· ∉ ['-', ' ', '_'])).map Char.toLower := by
  rcases isUpper_or_blank_or_isSettled c with hup | hblank | hsettled
  · have hne : c ∉ ['-', ' ', '_'] := by
      intro h
      simp only [List.mem_cons, List.not_mem_nil, or_false] at h
      rcases h with rfl | rfl | rfl <;> exact absurd hup (by decide)
    have hlower : c.toLower ≠ '_' := toLower_ne_underscore fun h => hne (by simp [h])
    have hkept : [c].filter (· ∉ ['-', ' ', '_']) = [c] :=
      List.filter_eq_self.mpr (by simpa using hne)
    rw [snakeLetter_of_isUpper hup, List.filter_append, hkept]
    cases small <;> simp [hlower]
  · rcases hblank with rfl | rfl <;> rfl
  · rw [snakeLetter_of_isSettled hsettled]
    have hlower : c.toLower = c := Char.toLower_eq_of_not_isUpper (by simp [hsettled.not_upper])
    by_cases hscore : c = '_'
    · subst hscore; rfl
    · simp [hscore, hsettled.ne_hyphen, hsettled.ne_blank, hlower]

/-! ### Whole names -/

/-- **Snake case is written character by character.** -/
theorem snakeFrom_cons (small : Bool) (c : Char) (cs : List Char) :
    snakeFrom small (c :: cs) =
      snakeLetter small c ++ snakeFrom (c.isLower || c.isDigit) cs := by
  rcases isUpper_or_blank_or_isSettled c with hup | hblank | hsettled
  · rw [isLower_or_isDigit_of_isUpper hup, snakeLetter_of_isUpper hup]
    cases small <;> simp [snakeFrom, hup]
  · rcases hblank with rfl | rfl <;> rfl
  · rw [snakeLetter_of_isSettled hsettled]
    simp [snakeFrom, hsettled.not_upper, hsettled.ne_hyphen, hsettled.ne_blank]

theorem isSettled_of_mem_snakeFrom {cs : List Char} {small : Bool} {d : Char}
    (h : d ∈ snakeFrom small cs) : IsSettled d := by
  induction cs generalizing small with
  | nil => cases h
  | cons c cs ih =>
    rw [snakeFrom_cons, List.mem_append] at h
    rcases h with h | h
    · exact isSettled_of_mem_snakeLetter h
    · exact ih h

/-- A settled text is its own snake case. -/
theorem snakeFrom_of_isSettled {cs : List Char} (h : ∀ c ∈ cs, IsSettled c) (small : Bool) :
    snakeFrom small cs = cs := by
  induction cs generalizing small with
  | nil => rfl
  | cons c cs ih =>
    rw [snakeFrom_cons, snakeLetter_of_isSettled (h c List.mem_cons_self),
      ih fun d hd => h d (List.mem_cons_of_mem _ hd)]
    rfl

theorem filter_snakeFrom (small : Bool) (cs : List Char) :
    (snakeFrom small cs).filter (· ≠ '_') =
      (cs.filter (· ∉ ['-', ' ', '_'])).map Char.toLower := by
  induction cs generalizing small with
  | nil => rfl
  | cons c cs ih =>
    rw [snakeFrom_cons, List.filter_append, filter_snakeLetter, ih, ← List.map_append,
      ← List.filter_append, List.singleton_append]

theorem snakeFrom_eq_nil {small : Bool} {cs : List Char} :
    snakeFrom small cs = [] ↔ cs = [] := by
  cases cs with
  | nil => simp [snakeFrom]
  | cons c cs =>
    rw [snakeFrom_cons, snakeLetter]
    split
    · split <;> simp
    · split <;> simp

theorem toList_snakeCase (name : String) :
    (snakeCase name).toList = snakeFrom false name.toList := by
  simp [snakeCase]

/-- Snake case does nothing the second time. -/
theorem snakeCase_snakeCase (name : String) : snakeCase (snakeCase name) = snakeCase name := by
  rw [snakeCase, toList_snakeCase,
    snakeFrom_of_isSettled fun c hc => isSettled_of_mem_snakeFrom hc]
  rfl

/-- At the front, a character that may start an identifier is written in small. -/
theorem snakeLetter_of_isStart {c : Char} (h : isStart c = true) :
    snakeLetter false c = [c.toLower] := by
  rcases isUpper_or_blank_or_isSettled c with hup | hblank | hsettled
  · rw [snakeLetter_of_isUpper hup]; rfl
  · rcases hblank with rfl | rfl <;> exact absurd h (by decide)
  · rw [snakeLetter_of_isSettled hsettled,
      Char.toLower_eq_of_not_isUpper (by simp [hsettled.not_upper])]

theorem isStart_toLower {c : Char} (h : isStart c = true) : isStart c.toLower = true := by
  simp only [isStart, Bool.or_eq_true, decide_eq_true_eq] at h ⊢
  rcases h with halpha | rfl
  · exact .inl (by rw [Char.isAlpha_toLower_eq_isAlpha, halpha])
  · exact .inr rfl

theorem isIdentifierChars_cons {c : Char} {cs : List Char} :
    isIdentifierChars (c :: cs) = true ↔
      isStart c = true ∧ (∀ d ∈ cs, isPart d = true) ∧ (c ≠ '_' ∨ cs ≠ []) := by
  simp [isIdentifierChars, and_assoc, imp_iff_not_or]

/-- **The snake case of an identifier is an identifier.** -/
theorem isIdentifier_snakeCase {name : String} (h : isIdentifier name = true) :
    isIdentifier (snakeCase name) = true := by
  rw [isIdentifier] at h
  rw [isIdentifier, toList_snakeCase]
  cases hname : name.toList with
  | nil => rw [hname] at h; cases h
  | cons c cs =>
    rw [hname, isIdentifierChars_cons] at h
    obtain ⟨hstart, hparts, hlone⟩ := h
    rw [snakeFrom_cons, snakeLetter_of_isStart hstart, List.singleton_append,
      isIdentifierChars_cons]
    refine ⟨isStart_toLower hstart, isPart_of_mem_snakeFrom hparts, ?_⟩
    -- an underscore alone comes from an underscore alone
    exact hlone.imp toLower_ne_underscore (mt snakeFrom_eq_nil.mp)

/-! ### Derived names -/

/-- The names of types in use have a capital letter. -/
theorem exists_isUpper_of_isBuiltinType {name : String} (h : isBuiltinType name = true) :
    name.toList.any Char.isUpper = true := by
  have hall : ∀ b ∈ builtinTypes, b.toList.any Char.isUpper = true := by decide
  exact hall name (by simpa [isBuiltinType] using h)

theorem declarable_snakeCase {name : String} (hname : isIdentifier name = true)
    (hreserved : isReserved (snakeCase name) = false) : Declarable (snakeCase name) where
  identifier := isIdentifier_snakeCase hname
  not_reserved := hreserved
  not_builtin := by
    rw [← Bool.not_eq_true]
    intro hbuiltin
    obtain ⟨c, hc, hup⟩ := List.any_eq_true.mp (exists_isUpper_of_isBuiltinType hbuiltin)
    rw [toList_snakeCase] at hc
    rw [(isSettled_of_mem_snakeFrom hc).not_upper] at hup
    cases hup

/-- No name with a meaning of its own starts like a visitor method. -/
theorem not_visit_isPrefix {word : String} (h : word ∈ reservedWords ++ builtinTypes) :
    ¬ "visit_".toList <+: word.toList := by
  have hall : ∀ w ∈ reservedWords ++ builtinTypes, ¬ "visit_".toList <+: w.toList := by decide
  exact hall word h

theorem toList_visitMethod (nodeType base : String) :
    (visitMethod nodeType base).toList = "visit_".toList ++
      (snakeFrom false nodeType.toList ++ '_' :: snakeFrom false base.toList) := by
  simp [visitMethod, String.toList_append, toList_snakeCase]

theorem declarable_visitMethod {nodeType base : String} (hnode : isIdentifier nodeType = true)
    (hbase : isIdentifier base = true) : Declarable (visitMethod nodeType base) := by
  have hmeaning : ∀ words : List String, words ⊆ reservedWords ++ builtinTypes →
      words.contains (visitMethod nodeType base) = false := by
    intro words hwords
    rw [List.contains_eq_mem, decide_eq_false_iff_not]
    intro hmem
    refine not_visit_isPrefix (hwords hmem) ?_
    rw [toList_visitMethod]
    exact List.prefix_append _ _
  refine ⟨?_, hmeaning _ (List.subset_append_left _ _), hmeaning _ (List.subset_append_right _ _)⟩
  have hvisit : "visit_".toList = 'v' :: "isit_".toList := rfl
  rw [isIdentifier, toList_visitMethod, hvisit, List.cons_append, isIdentifierChars_cons]
  refine ⟨rfl, ?_, .inl (by decide)⟩
  intro c hc
  rw [List.mem_append, List.mem_append, List.mem_cons] at hc
  rcases hc with hc | hc | rfl | hc
  · exact @isPart_of_isIdentifier "isit_" rfl c hc
  · exact isPart_of_mem_snakeFrom (isPart_of_isIdentifier hnode) c hc
  · rfl
  · exact isPart_of_mem_snakeFrom (isPart_of_isIdentifier hbase) c hc

end Name

/-- The generated code can declare the names that it derives from a family. -/
structure Family.DerivedDeclarable (f : Family) : Prop where
  /-- The parameter of the visitor methods. -/
  visitorParam : ∀ d : FamilyDefinition, d.family = f.name →
    Name.Declarable d.bindings.visitorParam
  /-- The module, after which its file is called, and with which the path into it ends. -/
  moduleName : ∃ moduleName, Name.Declarable moduleName ∧
    Name.artifactFile f.name = moduleName ++ ".rs" ∧
    ∀ line : IncludeLine, line.family = f.name →
      line.modulePath = line.root ++ "::" ++ moduleName
  /-- The visitor methods. -/
  visitMethods : ∀ method ∈ f.visitMethods, Name.Declarable method
  /-- These are the visitor methods that the definitions of the node types call. -/
  called : ∀ (r : Registry) (settings : Settings) (d : FamilyDefinition),
    r.defineFamily settings f = .ok d →
      d.family = f.name ∧ d.types.map (·.visitMethod) = f.visitMethods

theorem map_visitMethod_of_defineFamily {r : Registry} {settings : Settings} {family : Family}
    {d : FamilyDefinition} (hd : r.defineFamily settings family = .ok d) :
    d.types.map (·.visitMethod) = family.visitMethods := by
  obtain ⟨nodes, hnodes, rfl⟩ := Registry.defineFamily_eq_ok.mp hd
  rw [List.map_map, Family.visitMethods]
  refine map_eq_map_of_forall₂ ((Registry.resolveNodes_eq_ok.mp hnodes).imp ?_)
  rintro n node ⟨hname, -⟩
  show Name.visitMethod node.1 family.name = Name.visitMethod n.name family.name
  rw [hname]

theorem Family.Valid.derivedDeclarable {f : Family} (hf : f.Valid) : f.DerivedDeclarable where
  visitorParam := by
    intro d hd
    show Name.Declarable (Name.snakeCase d.family)
    rw [hd]
    exact Name.declarable_snakeCase hf.name.identifier hf.snake
  moduleName := by
    refine ⟨Name.snakeCase f.name, Name.declarable_snakeCase hf.name.identifier hf.snake, rfl, ?_⟩
    intro line hline
    rw [IncludeLine.modulePath, hline]
  visitMethods := by
    intro method hmethod
    obtain ⟨n, hn, rfl⟩ := List.mem_map.mp hmethod
    exact Name.declarable_visitMethod (hf.nodeTypes n hn).name.identifier hf.name.identifier
  called := by
    intro r settings d hd
    obtain ⟨nodes, -, hd'⟩ := Registry.defineFamily_eq_ok.mp hd
    exact ⟨by rw [hd'], map_visitMethod_of_defineFamily hd⟩

/-- **Snake case keeps derived names legal.**  The snake case of a text holds no capital
letter, hyphen or blank and is its own snake case; without its underscores it is the text
without separators and in small letters; and that of an identifier is an identifier.  So the
generated code can declare the visitor parameter, the module and the visitor methods of every
family that a registry accepts. -/
theorem snakeCase_legal :
    (∀ text : String,
      (∀ c ∈ (Name.snakeCase text).toList, c.isUpper = false ∧ c ≠ '-' ∧ c ≠ ' ') ∧
      Name.snakeCase (Name.snakeCase text) = Name.snakeCase text ∧
      (Name.snakeCase text).toList.filter (· ≠ '_') =
        (text.toList.filter (· ∉ ['-', ' ', '_'])).map Char.toLower ∧
      (Name.isIdentifier text = true → Name.isIdentifier (Name.snakeCase text) = true)) ∧
    ∀ (r r' : Registry) (name : String) (nodeTypes : List NodeType) (includes : List String),
      r.define name nodeTypes includes = .ok r' →
      ∃ family : Family, r'.families = r.families ++ [family] ∧ family.name = name ∧
        family.nodeTypes = nodeTypes ∧ family.DerivedDeclarable := by
  constructor
  · intro text
    refine ⟨fun c hc => ?_, Name.snakeCase_snakeCase text, ?_, Name.isIdentifier_snakeCase⟩
    · rw [Name.toList_snakeCase] at hc
      obtain ⟨hup, hhyphen, hblank⟩ := Name.isSettled_of_mem_snakeFrom hc
      exact ⟨hup, hhyphen, hblank⟩
    · rw [Name.toList_snakeCase]
      exact Name.filter_snakeFrom false text.toList
  · intro r r' name nodeTypes includes h
    have hderived := (Registry.valid_of_define h).derivedDeclarable
    obtain ⟨-, -, -, -, rfl⟩ := Registry.define_eq_ok.mp h
    exact ⟨_, rfl, rfl, rfl, hderived⟩

/-- A family with a node type whose snake case is a reserved word. -/
def typeExprFamily : Family :=
  ⟨"TypeExpr", [⟨"Match", []⟩, ⟨"_If2Else", []⟩], []⟩

/-- The visitor methods of this family can be declared nevertheless. -/
theorem snakeCase_legal_typeExprFamily :
    Name.isReserved (Name.snakeCase "Match") = true ∧
    Name.isIdentifier "_If2Else" = true ∧ Name.isIdentifier (Name.snakeCase "_If2Else") = true ∧
    ∃ r', Registry.empty.define typeExprFamily.name typeExprFamily.nodeTypes [] = .ok r' ∧
      ∃ family : Family, r'.families = [family] ∧ family.DerivedDeclarable ∧
        family.visitMethods = ["visit_match_type_expr", "visit__if2_else_type_expr"] := by
  obtain ⟨htexts, haccepted⟩ := snakeCase_legal
  have hdefine : Registry.empty.define typeExprFamily.name typeExprFamily.nodeTypes [] = .ok _ :=
    rfl
  refine ⟨by decide, by decide, (htexts _).2.2.2 (by decide), _, hdefine, ?_⟩
  obtain ⟨family, hlast, hname, hnodes, hderived⟩ := haccepted _ _ _ _ _ hdefine
  refine ⟨family, hlast, hderived, ?_⟩
  rw [Family.visitMethods, hname, hnodes]
  decide

namespace Name

/-! ### Camel case -/

/-- The name is an identifier in strict camel case: a capital letter in front, no underscore,
and no two capital letters side by side. -/
structure IsCamel (name : String) : Prop where
  /-- The name is an identifier. -/
  identifier : isIdentifier name = true
  /-- It starts with a capital letter. -/
  capital : ∃ c ∈ name.toList.head?, c.isUpper = true
  /-- It has no underscore. -/
  underscore : '_' ∉ name.toList
  /-- No capital letter follows another one. -/
  apart : name.toList.IsChain fun c d => ¬ (c.isUpper = true ∧ d.isUpper = true)

/-- Camel case from left to right: underscores go, and the letter behind one becomes capital;
`starts` says that a word starts here. -/
def camelFrom (starts : Bool) : List Char → List Char
  | [] => []
  | c :: cs =>
    if c = '_' then camelFrom true cs
    else (if starts then c.toUpper else c) :: camelFrom false cs

/-- A name with a capital letter at the start of each word, and no underscores. -/
def camelCase (name : String) : String :=
  String.ofList (camelFrom true name.toList)

theorem toUpper_toLower_of_isUpper {c : Char} (h : c.isUpper = true) : c.toLower.toUpper = c := by
  have hlower := (Bool.or_eq_false_iff.mp (isLower_or_isDigit_of_isUpper h)).1
  rw [Char.toUpper_toLower_eq_toUpper, Char.toUpper_eq_of_not_isLower (by simp [hlower])]

/-- A capital letter that starts a word is read back. -/
theorem camelFrom_true_toLower {c : Char} (h : c.isUpper = true) (cs : List Char) :
    camelFrom true (c.toLower :: cs) = c :: camelFrom false cs := by
  have hne : c.toLower ≠ '_' := by
    apply toLower_ne_underscore
    rintro rfl
    exact absurd h (by decide)
  simp [camelFrom, hne, toUpper_toLower_of_isUpper h]

/-- A character of a name that is no capital letter and no underscore is a small letter or
digit. -/
theorem isLower_or_isDigit_of_isPart {c : Char} (hpart : isPart c = true) (hscore : c ≠ '_')
    (hup : c.isUpper = false) : (c.isLower || c.isDigit) = true := by
  simpa [isPart, Char.isAlphanum, Char.isAlpha, hscore, hup] using hpart

/-- **The words behind a first letter are read back.**  After a capital letter, where `small`
is off, no other one must follow; everywhere else a capital letter has its underscore. -/
theorem camelFrom_snakeFrom {cs : List Char} {small : Bool}
    (hparts : ∀ c ∈ cs, isPart c = true) (hscore : '_' ∉ cs)
    (hapart : cs.IsChain fun c d => ¬ (c.isUpper = true ∧ d.isUpper = true))
    (hfirst : small = false → ∀ c ∈ cs.head?, c.isUpper = false) :
    camelFrom false (snakeFrom small cs) = cs := by
  induction cs generalizing small with
  | nil => rfl
  | cons c cs ih =>
    rw [List.forall_mem_cons] at hparts
    rw [List.mem_cons, not_or] at hscore
    rw [List.isChain_cons] at hapart
    have hrest := @ih (c.isLower || c.isDigit) hparts.2 hscore.2 hapart.2
    rw [snakeFrom_cons]
    cases hup : c.isUpper with
    | true =>
      have hsmall : small = true := by
        cases small with
        | true => rfl
        | false => simpa [hup] using hfirst rfl
      rw [snakeLetter_of_isUpper hup, hsmall]
      show camelFrom true (c.toLower :: snakeFrom _ cs) = c :: cs
      rw [camelFrom_true_toLower hup, hrest]
      intro _ d hd
      simpa [hup] using hapart.1 d hd
    | false =>
      have hsmall := isLower_or_isDigit_of_isPart hparts.1 (Ne.symm hscore.1) hup
      have hsettled : IsSettled c := by
        refine ⟨hup, ?_, ?_⟩ <;> (rintro rfl; exact absurd hsmall (by decide))
      rw [snakeLetter_of_isSettled hsettled, List.singleton_append, camelFrom,
        if_neg (Ne.symm hscore.1), if_neg Bool.false_ne_true, hrest]
      intro hnot
      rw [hsmall] at hnot
      cases hnot

/-- A camel-case name is read back from its snake case. -/
theorem camelCase_snakeCase {name : String} (h : IsCamel name) :
    camelCase (snakeCase name) = name := by
  obtain ⟨hidentifier, ⟨c, hhead, hup⟩, hscore, hapart⟩ := h
  have hparts := isPart_of_isIdentifier hidentifier
  obtain ⟨cs, hname⟩ := List.head?_eq_some_iff.mp hhead
  rw [hname, List.isChain_cons] at hapart
  rw [hname, List.forall_mem_cons] at hparts
  rw [hname, List.mem_cons, not_or] at hscore
  rw [camelCase, toList_snakeCase, hname, snakeFrom_cons, snakeLetter_of_isUpper hup,
    isLower_or_isDigit_of_isUpper hup]
  show String.ofList (camelFrom true (c.toLower :: snakeFrom false cs)) = name
  rw [camelFrom_true_toLower hup, camelFrom_snakeFrom hparts.2 hscore.2 hapart.2, ← hname,
    String.ofList_toList]
  intro _ d hd
  simpa [hup] using hapart.1 d hd

/-- **Camel-case names with a common derived name are equal**: of a module, of its file, or of
the visitor method in a family. -/
theorem eq_of_derived_eq {a b : String} (ha : IsCamel a) (hb : IsCamel b) :
    (snakeCase a = snakeCase b → a = b) ∧
    (∀ base, visitMethod a base = visitMethod b base → a = b) ∧
    (artifactFile a = artifactFile b → a = b) := by
  have hsnake : snakeCase a = snakeCase b → a = b := by
    intro h
    rw [← camelCase_snakeCase ha, h, camelCase_snakeCase hb]
  exact ⟨hsnake, fun base h => hsnake (visitMethod_inj.mp h),
    fun h => hsnake (artifactFile_inj.mp h)⟩

/-- Two camel-case names that differ in one letter's case, behind a digit, have no derived name
in common. -/
theorem eq_of_derived_eq_expr2Node :
    IsCamel "Expr2Node" ∧ IsCamel "Expr2node" ∧ snakeCase "Expr2Node" ≠ snakeCase "Expr2node" ∧
    visitMethod "Expr2Node" "Stmt" ≠ visitMethod "Expr2node" "Stmt" ∧
    artifactFile "Expr2Node" ≠ artifactFile "Expr2node" := by
  have hcapital : IsCamel "Expr2Node" := ⟨by decide, ⟨'E', rfl, rfl⟩, by decide, by decide⟩
  have hsmall : IsCamel "Expr2node" := ⟨by decide, ⟨'E', rfl, rfl⟩, by decide, by decide⟩
  have hne : "Expr2Node" ≠ "Expr2node" := by decide
  obtain ⟨hsnake, hmethod, hfile⟩ := eq_of_derived_eq hcapital hsmall
  exact ⟨hcapital, hsmall, mt hsnake hne, mt (hmethod "Stmt") hne, mt hfile hne⟩

end Name

end TreeSmith
