import TreeSmith.Proofs.Printing

/-!
# Brackets of printed trees

A printed tree is its prefix form, and a form is some words between parentheses.  The
words of a form are fixed ones or come from the fields of the node: a lexeme, a list of
lexemes, which is a form of its own, or what a child is printed as.  Said once for each
kind of node, this makes the rest one induction over the tree that no longer looks at the
kinds: balanced words make a balanced form.

A number is written without parentheses, whatever its bits are.  A lexeme or a text may
hold some, and then nothing can be said; but only of those that are written.  The tokens
that say where a node stands, such as the parenthesis that ends a call, are not.

## Main definitions

* `depth`, `Balanced` — how many parentheses are open, and texts that close what they open.
* `Node.texts` — the lexemes and texts of a tree that are written.
* `Field.words` — the words that a field is written with.

## Main results

* `isPlain_display` — numbers have no parentheses.
* `Expr.exists_words`, `Stmt.exists_words` — what a node writes.
* `Node.balanced_fields` — the fields of a tree of plain texts are balanced.
* `Node.printed_wellBracketed` — **printed trees are well bracketed.**
-/

namespace TreeSmith.Tree

/-! ### Balanced texts -/

/-- How many parentheses are open at the end of a text. -/
def depth (cs : List Char) : Int :=
  cs.count '(' - cs.count ')'

@[simp] theorem depth_nil : depth [] = 0 := rfl

@[simp] theorem depth_append (as bs : List Char) : depth (as ++ bs) = depth as + depth bs := by
  simp only [depth, List.count_append]
  omega

@[simp] theorem depth_open (cs : List Char) : depth ('(' :: cs) = depth cs + 1 := by
  rw [depth, depth, List.count_cons_self, List.count_cons_of_ne (by decide)]
  omega

@[simp] theorem depth_close : depth [')'] = -1 := rfl

/-- No parenthesis is closed before it is opened, and all of them are closed. -/
structure Balanced (cs : List Char) : Prop where
  /-- After any number of characters, no more are closed than opened. -/
  nonneg : ∀ k, 0 ≤ depth (cs.take k)
  /-- At the end, as many are closed as opened. -/
  closed : depth cs = 0

/-- No parenthesis stands in the text. -/
def IsPlain (s : String) : Prop :=
  '(' ∉ s.toList ∧ ')' ∉ s.toList

instance (s : String) : Decidable (IsPlain s) :=
  inferInstanceAs (Decidable (_ ∧ _))

theorem IsPlain.balanced {s : String} (h : IsPlain s) : Balanced s.toList := by
  have hzero : ∀ cs : List Char, cs ⊆ s.toList → depth cs = 0 := by
    intro cs hcs
    have hopen : '(' ∉ cs := fun hmem => h.1 (hcs hmem)
    have hclose : ')' ∉ cs := fun hmem => h.2 (hcs hmem)
    rw [depth, List.count_eq_zero.mpr hopen, List.count_eq_zero.mpr hclose]
    rfl
  refine ⟨fun k => ?_, hzero _ (List.Subset.refl _)⟩
  exact Int.le_of_eq (hzero _ (List.take_subset k _)).symm

namespace Balanced

variable {as bs cs : List Char}

theorem append (ha : Balanced as) (hb : Balanced bs) : Balanced (as ++ bs) where
  nonneg := by
    intro k
    have hfront := ha.nonneg k
    have hback := hb.nonneg (k - as.length)
    rw [List.take_append, depth_append]
    omega
  closed := by rw [depth_append, ha.closed, hb.closed]; rfl

/-- Between parentheses a balanced text has something open up to the last character. -/
theorem pos_of_wrap (h : Balanced cs) {k : Nat} (hk : k ≤ cs.length) :
    0 < depth (('(' :: (cs ++ [')'])).take (k + 1)) := by
  have hinner := h.nonneg k
  rw [List.take_succ_cons, List.take_append_of_le_length hk, depth_open]
  omega

theorem wrap (h : Balanced cs) : Balanced ('(' :: (cs ++ [')'])) := by
  have hclosed : depth ('(' :: (cs ++ [')'])) = 0 := by simp [h.closed]
  refine ⟨fun k => ?_, hclosed⟩
  cases k with
  | zero => exact Int.le_refl 0
  | succ k =>
    by_cases hk : k ≤ cs.length
    · exact Int.le_of_lt (h.pos_of_wrap hk)
    · have hall : ('(' :: (cs ++ [')'])).length ≤ k + 1 := by simp; omega
      rw [List.take_of_length_le hall]
      exact Int.le_of_eq hclosed.symm

end Balanced

theorem balanced_intercalate {words : List String} (h : ∀ w ∈ words, Balanced w.toList) :
    Balanced (String.intercalate " " words).toList := by
  have hblank : Balanced " ".toList := IsPlain.balanced (by decide)
  induction words with
  | nil => exact IsPlain.balanced (by decide)
  | cons w words ih =>
    obtain ⟨hw, hwords⟩ := List.forall_mem_cons.mp h
    cases words with
    | nil => simpa using hw
    | cons v words => simpa using (hw.append hblank).append (ih hwords)

theorem toList_form (words : List String) :
    (form words).toList = '(' :: ((String.intercalate " " words).toList ++ [')']) := by
  simp [form]

theorem balanced_form {words : List String} (h : ∀ w ∈ words, Balanced w.toList) :
    Balanced (form words).toList := by
  rw [toList_form]
  exact (balanced_intercalate h).wrap

/-! ### Plain texts -/

theorem IsPlain.append {s t : String} (hs : IsPlain s) (ht : IsPlain t) : IsPlain (s ++ t) := by
  simp only [IsPlain, String.toList_append, List.mem_append, not_or]
  exact ⟨⟨hs.1, ht.1⟩, hs.2, ht.2⟩

theorem mem_positionalText {ds : List Char} (hds : ∀ c ∈ ds, c.isDigit = true) {e : Int} {c : Char}
    (h : c ∈ (positionalText "" ds e).toList) : c.isDigit = true ∨ c = '.' := by
  simp only [positionalText] at h
  split at h
  · simp only [String.append_empty, String.toList_ofList, List.mem_append] at h
    rcases h with h | h
    · exact .inl (hds c h)
    · rw [List.eq_of_mem_replicate h]
      exact .inl rfl
  · split at h
    · simp only [String.toList_ofList, List.mem_append, List.mem_cons] at h
      rcases h with h | h | h
      · exact .inl (hds c (List.mem_of_mem_take h))
      · exact .inr h
      · exact .inl (hds c (List.mem_of_mem_drop h))
    · simp only [String.toList_ofList, List.mem_append, List.mem_cons, List.cons_append] at h
      rcases h with h | h | h | h
      · rw [h]
        exact .inl rfl
      · exact .inr h
      · rw [List.eq_of_mem_replicate h]
        exact .inl rfl
      · exact .inl (hds c h)

/-- A number is written with digits, a point, a sign and letters. -/
theorem isPlain_display (b : Binary64) : IsPlain (NumberStyle.display.text b) := by
  cases b with
  | nan => decide
  | infinite negative => cases negative <;> decide
  | finite negative m q =>
    have hsign : IsPlain (if negative then "-" else "") := by cases negative <;> decide
    have hdigits : ∀ c ∈ Nat.toDigits 10 (Rounding.shortest m q).digits, c.isDigit = true :=
      fun c hc => Nat.isDigit_of_mem_toDigits (b := 10) (by decide) (by decide) hc
    have hdecimal : IsPlain (NumberStyle.display.decimalText (Rounding.shortest m q)) := by
      constructor
      · intro hmem
        rcases mem_positionalText hdigits hmem with h | h <;> cases h
      · intro hmem
        rcases mem_positionalText hdigits hmem with h | h <;> cases h
    simp only [NumberStyle.text]
    split
    · exact (hsign.append (by decide)).append (by decide)
    · exact hsign.append hdecimal

theorem Literal.isPlain_written {v : Literal} (h : ∀ s, v = .text s → IsPlain s) :
    IsPlain v.written := by
  cases v with
  | nil => decide
  | bool b => cases b <;> decide
  | number bits => exact isPlain_display _
  | text s => exact h s rfl

/-! ### The texts of a tree -/

/-- The fields with a token that says where a node stands, and that is not written. -/
def placeFields : List String := ["paren", "keyword"]

/-- The fields of a node that are written. -/
def Node.writtenFields (n : Node) : List Field :=
  (n.fields.filter (·.1 ∉ placeFields)).map (·.2)

/-- The texts in a field itself: the lexemes of its tokens, and a literal that is a
text. -/
def Field.texts : Field → List String
  | .token t => [t.lexeme]
  | .tokens ts => ts.map (·.lexeme)
  | .literal (.text s) => [s]
  | _ => []

theorem Node.mem_nodes_of_mem_writtenFields {n c : Node} {f : Field} (hf : f ∈ n.writtenFields)
    (hc : c ∈ f.nodes) : c ∈ n.fields.flatMap (·.2.nodes) := by
  obtain ⟨entry, hentry, rfl⟩ := List.mem_map.mp hf
  exact List.mem_flatMap.mpr ⟨entry, (List.mem_filter.mp hentry).1, hc⟩

/-- The lexemes and the literal texts of a tree, but for the tokens that say where a node
stands. -/
def Node.texts (n : Node) : List String :=
  n.writtenFields.attach.flatMap fun f =>
    f.1.texts ++ f.1.nodes.attach.flatMap fun c => c.1.texts
termination_by sizeOf n
decreasing_by exact sizeOf_lt_of_mem_nodes (mem_nodes_of_mem_writtenFields f.2 c.2)

theorem Node.texts_eq (n : Node) :
    n.texts = n.writtenFields.flatMap fun f => f.texts ++ f.nodes.flatMap Node.texts := by
  rw [Node.texts]
  simp only [List.flatMap_subtype, List.unattach_attach]

/-! ### What a node writes -/

/-- The words that a field is written with. -/
def Field.words : Field → List String
  | .token t => [t.lexeme]
  | .tokens ts => [form (ts.map (·.lexeme))]
  | .literal v => [v.written]
  | f => f.nodes.map Node.prefixForm

/-- The words that forms are made of besides the fields. -/
def formWords : List String :=
  ["=", "call", ".", "group", "super", "?:", "block", "break", "class", "<", ";", "fun", "if",
    "print", "return", "var", "while"]

/-- The types of the nodes that are written without parentheses. -/
def leafTypes : List String := ["Literal", "This", "Variable"]

section FieldWords

variable (nodeType field : String)

@[simp] theorem Field.words_token (t : Token) : (Field.token t).words = [t.lexeme] := rfl

@[simp] theorem Field.words_tokens (ts : List Token) :
    (Field.tokens ts).words = [form (ts.map (·.lexeme))] := rfl

@[simp] theorem Field.words_ownedExpr (child : Option Expr) :
    (Field.ownedExpr nodeType field child).words = prefixExpr? child := by
  cases child <;> rfl

@[simp] theorem Field.words_ownedStmt (child : Option Stmt) :
    (Field.ownedStmt nodeType field child).words = prefixStmt? child := by
  cases child <;> rfl

@[simp] theorem Field.words_sharedExpr (child : Option Expr) :
    (Field.sharedExpr child).words = prefixExpr? child := by
  cases child <;> rfl

@[simp] theorem Field.words_shared (child : Option Node) :
    (Field.shared child).words = child.toList.map Node.prefixForm := by
  cases child <;> rfl

@[simp] theorem Field.words_children (nodes : List Node) :
    (Field.children nodes).words = nodes.map Node.prefixForm := rfl

end FieldWords

theorem prefixExprs_eq (es : List Expr) :
    prefixExprs es = (es.map Node.expr).map Node.prefixForm := by
  induction es with
  | nil => rfl
  | cons e es ih => simp [prefixExprs, ih, Node.prefixForm]

theorem prefixStmts_eq (ss : List Stmt) :
    prefixStmts ss = (ss.map Node.stmt).map Node.prefixForm := by
  induction ss with
  | nil => rfl
  | cons s ss ih => simp [prefixStmts, ih, Node.prefixForm]

theorem prefixStmt?_eq (child : Option Stmt) :
    prefixStmt? child = (child.map Node.stmt).toList.map Node.prefixForm := by
  cases child <;> rfl

theorem prefixFunctions_eq (fs : List Function) :
    prefixFunctions fs = (fs.map fun f => Node.stmt (.function f)).map Node.prefixForm := by
  induction fs with
  | nil => rfl
  | cons f fs ih => simp [prefixFunctions, ih, Node.prefixForm, Stmt.prefixForm]

attribute [local simp] Node.writtenFields Node.fields placeFields Expr.fields Stmt.fields

/-- **What an expression writes** between its parentheses. -/
theorem Expr.exists_words {e : Expr} (h : e.typeName ∉ leafTypes) :
    ∃ words, e.prefixForm = form words ∧
      ∀ w ∈ words, w ∈ formWords ∨ w ∈ (Node.expr e).writtenFields.flatMap Field.words := by
  cases e
  case literal | this | «variable» => simp [Expr.typeName, leafTypes] at h
  all_goals
    refine ⟨_, by rw [Expr.prefixForm], ?_⟩
    simp [prefixExprs_eq, formWords] <;> grind

/-- **What a statement writes** between its parentheses. -/
theorem Stmt.exists_words (s : Stmt) :
    ∃ words, s.prefixForm = form words ∧
      ∀ w ∈ words, w ∈ formWords ∨ w ∈ (Node.stmt s).writtenFields.flatMap Field.words := by
  -- the kinds whose text depends on more than their kind come first
  cases s
  case function f =>
    obtain ⟨name, params, body⟩ := f
    refine ⟨_, by rw [Stmt.prefixForm, Function.prefixForm], ?_⟩
    simp [prefixStmts_eq, formWords, form, Function.name, Function.params, Function.body]
    grind
  case classDecl name superclass methods =>
    refine ⟨_, by rw [Stmt.prefixForm], ?_⟩
    cases superclass
    all_goals
      simp [prefixFunctions_eq, formWords, Node.prefixForm, Expr.prefixForm]
      grind
  case varDecl name initialiser =>
    cases initialiser
    all_goals
      refine ⟨_, by rw [Stmt.prefixForm], ?_⟩
      simp [formWords, prefixExpr?]
  all_goals
    refine ⟨_, by rw [Stmt.prefixForm], ?_⟩
    simp [prefixStmts_eq, prefixStmt?_eq, formWords] <;> grind

theorem Node.exists_words {n : Node} (h : n.typeName ∉ leafTypes) :
    ∃ words, n.prefixForm = form words ∧
      ∀ w ∈ words, w ∈ formWords ∨ w ∈ n.writtenFields.flatMap Field.words := by
  cases n with
  | expr e => exact Expr.exists_words h
  | stmt s => exact s.exists_words

/-- A node without parentheses is a word or one of its fields. -/
theorem Node.prefixForm_of_leaf {n : Node} (h : n.typeName ∈ leafTypes) :
    n.prefixForm = "this" ∨ n.prefixForm ∈ n.writtenFields.flatMap Field.words := by
  cases n with
  | expr e =>
    cases e
    case literal value => exact .inr List.mem_cons_self
    case this keyword => exact .inl rfl
    case «variable» v => exact .inr List.mem_cons_self
    all_goals simp [Node.typeName, Expr.typeName, leafTypes] at h
  | stmt s => cases s <;> simp [Node.typeName, Stmt.typeName, leafTypes] at h

/-! ### Trees -/

/-- A balanced text between parentheses. -/
def IsWrapped (cs : List Char) : Prop :=
  ∃ inner, Balanced inner ∧ cs = '(' :: (inner ++ [')'])

/-- A field is written with balanced words, if its texts are plain and its children are
balanced. -/
theorem Field.balanced_words {f : Field} (htexts : ∀ s ∈ f.texts, IsPlain s)
    (hnodes : ∀ c ∈ f.nodes, Balanced c.prefixForm.toList) : ∀ w ∈ f.words, Balanced w.toList := by
  intro w hw
  cases f with
  | token t =>
    rw [List.mem_singleton.mp hw]
    exact (htexts _ List.mem_cons_self).balanced
  | tokens ts =>
    rw [List.mem_singleton.mp hw]
    exact balanced_form fun v hv => (htexts v hv).balanced
  | literal v =>
    rw [List.mem_singleton.mp hw]
    refine (Literal.isPlain_written fun s hs => ?_).balanced
    subst hs
    exact htexts s List.mem_cons_self
  | owned child | shared child | children nodes =>
    obtain ⟨c, hc, rfl⟩ := List.mem_map.mp hw
    exact hnodes c hc

/-- A node with balanced fields is balanced, and wrapped unless it is a leaf. -/
theorem Node.balanced_of_fields {n : Node}
    (h : ∀ f ∈ n.writtenFields, ∀ w ∈ f.words, Balanced w.toList) :
    Balanced n.prefixForm.toList ∧ (n.typeName ∉ leafTypes → IsWrapped n.prefixForm.toList) := by
  have hfields : ∀ w ∈ n.writtenFields.flatMap Field.words, Balanced w.toList := by
    intro w hw
    obtain ⟨f, hf, hmem⟩ := List.mem_flatMap.mp hw
    exact h f hf w hmem
  by_cases hleaf : n.typeName ∈ leafTypes
  · refine ⟨?_, fun hnot => absurd hleaf hnot⟩
    rcases prefixForm_of_leaf hleaf with hthis | hmem
    · rw [hthis]
      exact IsPlain.balanced (by decide)
    · exact hfields _ hmem
  · obtain ⟨words, hwords, hall⟩ := exists_words hleaf
    have hplain : ∀ w ∈ formWords, IsPlain w := by decide
    have hbalanced : ∀ w ∈ words, Balanced w.toList := by
      intro w hw
      rcases hall w hw with hmem | hmem
      · exact (hplain w hmem).balanced
      · exact hfields w hmem
    rw [hwords]
    exact ⟨balanced_form hbalanced, fun _ => ⟨_, balanced_intercalate hbalanced, toList_form words⟩⟩

/-- The fields of a tree of plain texts are balanced, all the way down. -/
theorem Node.balanced_fields (n : Node) (h : ∀ s ∈ n.texts, IsPlain s) (f : Field)
    (hf : f ∈ n.writtenFields) : ∀ w ∈ f.words, Balanced w.toList := by
  have hmem : ∀ s ∈ f.texts ++ f.nodes.flatMap Node.texts, IsPlain s := by
    intro s hs
    apply h
    rw [texts_eq]
    exact List.mem_flatMap.mpr ⟨f, hf, hs⟩
  apply Field.balanced_words
  · exact fun s hs => hmem s (List.mem_append_left _ hs)
  · intro c hc
    refine (balanced_of_fields fun g hg => c.balanced_fields (fun s hs => ?_) g hg).1
    exact hmem s (List.mem_append_right _ (List.mem_flatMap.mpr ⟨c, hc, hs⟩))
termination_by sizeOf n
decreasing_by exact sizeOf_lt_of_mem_nodes (mem_nodes_of_mem_writtenFields hf hc)

/-- A tree that is printed is printed in its prefix form. -/
theorem Node.eq_prefixForm_of_printed {n : Node} {text : String} (h : n.printed = .ok text) :
    text = n.prefixForm := by
  have hrun : n.printed = (n.printOn .start).finish := by cases n <;> rfl
  have hwalk := n.printed_printOn .start
  rw [hrun, Printer.finish, hwalk.fault] at h
  cases habs : n.absences with
  | nil =>
    have hout := hwalk.out rfl habs
    rw [habs] at h
    rw [← Except.ok.inj h, hout]
    exact String.empty_append
  | cons a more =>
    rw [habs] at h
    cases h

/-- **Printed trees are well bracketed**, if no lexeme and no literal text that is written
holds a parenthesis.  After any number of characters no more parentheses are closed than
opened, at the end as many are, and a node in parentheses has one open up to its last
character. -/
theorem Node.printed_wellBracketed {n : Node} {text : String} (hprinted : n.printed = .ok text)
    (hplain : ∀ s ∈ n.texts, '(' ∉ s.toList ∧ ')' ∉ s.toList) :
    (∀ k, (text.toList.take k).count ')' ≤ (text.toList.take k).count '(') ∧
    text.toList.count '(' = text.toList.count ')' ∧
    (n.typeName ∉ ["Literal", "This", "Variable"] →
      text ≠ "" ∧ ∀ k, 0 < k → k < text.length →
        (text.toList.take k).count ')' < (text.toList.take k).count '(') := by
  obtain ⟨hbalanced, hwrapped⟩ := balanced_of_fields (n.balanced_fields hplain)
  rw [← eq_prefixForm_of_printed hprinted] at hbalanced hwrapped
  refine ⟨fun k => ?_, ?_, fun hform => ?_⟩
  · have hdepth := hbalanced.nonneg k
    unfold depth at hdepth
    omega
  · have hdepth := hbalanced.closed
    unfold depth at hdepth
    omega
  · obtain ⟨inner, hinner, htext⟩ := hwrapped hform
    refine ⟨?_, fun k hpos hlt => ?_⟩
    · rintro rfl
      cases htext
    · obtain ⟨j, rfl⟩ := Nat.exists_eq_add_of_lt hpos
      have hj : j ≤ inner.length := by
        rw [← String.length_toList, htext] at hlt
        simp at hlt
        omega
      have hdepth := hinner.pos_of_wrap hj
      rw [← htext, depth] at hdepth
      rw [Nat.zero_add]
      omega

/-- A function that prints the value of a call. -/
def callTree : Node :=
  .stmt (.function (.mk ⟨.identifier, "f", none, 1⟩
    [⟨.identifier, "a", none, 1⟩, ⟨.identifier, "b", none, 1⟩]
    [.print (some (.call (some (.variable ⟨⟨.identifier, "g", none, 2⟩⟩))
      ⟨.rightParen, ")", none, 2⟩ [.literal (.number 0x3FF8000000000000), .literal (.text "x")]))]))

theorem texts_callTree : callTree.texts = ["f", "a", "b", "g", "x"] := by
  simp [callTree, Node.texts_eq, Field.texts, Field.nodes, Field.ownedExpr, Function.name,
    Function.params, Function.body]

/-- The token that ends the call is a parenthesis itself, but it is not written. -/
theorem Node.printed_wellBracketed_callTree :
    callTree.printed = .ok "(fun f (a b) (print (call g 1.5 x)))" ∧
    (∀ s ∈ callTree.texts, '(' ∉ s.toList ∧ ')' ∉ s.toList) ∧
    ∀ k, 0 < k → k < 36 →
      ("(fun f (a b) (print (call g 1.5 x)))".toList.take k).count ')' <
        ("(fun f (a b) (print (call g 1.5 x)))".toList.take k).count '(' := by
  have hprinted : callTree.printed = .ok "(fun f (a b) (print (call g 1.5 x)))" := by rfl
  have hplain : ∀ s ∈ callTree.texts, '(' ∉ s.toList ∧ ')' ∉ s.toList := by
    rw [texts_callTree]
    decide
  have hform : callTree.typeName ∉ ["Literal", "This", "Variable"] := by decide
  exact ⟨hprinted, hplain, ((printed_wellBracketed hprinted hplain).2.2 hform).2⟩

end TreeSmith.Tree
