import TreeSmith.Definition.Basic

/-!
# Reading the target language

Types and the bodies of accessors are emitted as texts.  Here the part of the target
language that these texts use is read back, so that a statement about a definition can
be about its texts: a text is cut into words and single characters, and a type or an
expression is read from these from left to right.  A word is only taken as a type former
when a bracket follows, and only as a method when parentheses do, so a field or a value type
may have any identifier as its name.

| text | expression |
|---|---|
| `self.f` | the slot `f` |
| `&e` | a reference to `e` |
| `e.as_ref()` | a reference to what is in `e`, if there is something |
| `e.as_deref()` | a reference to what the pointer in `e` points to, if there is one |
| `e.ok_or_else(..)` | what is in `e`, or else the error that names a node type and a field |

## Main definitions

* `Token`, `tokenize` — a text in words and single characters.
* `TypeExpr.ofText?` — the type that a text spells.
* `Term`, `Term.ofText?` — the expression that a text spells.
* `Access.term` — the expression that the body of an accessor stands for.

## Main results

* `TypeExpr.ofText?_text` — a type is read back from its text.
* `Term.ofText?_text` — the expression of a body is read from its text.
-/

namespace TreeSmith

/-! ### Words and characters -/

/-- A part of a text. -/
inductive Token
  /-- Letters, digits and underscores that stand together. -/
  | word (text : String)
  /-- Any other character. -/
  | mark (c : Char)
  deriving DecidableEq, Repr

/-- A part of a word in front of tokens, which goes on with a word after it. -/
def Token.extend (c : Char) : List Token → List Token
  | .word text :: more => .word (String.singleton c ++ text) :: more
  | tokens => .word (String.singleton c) :: tokens

/-- A character in front of tokens. -/
def Token.push (c : Char) (tokens : List Token) : List Token :=
  if Name.isPart c then extend c tokens else .mark c :: tokens

/-- The tokens of a text. -/
def tokenize (cs : List Char) : List Token :=
  cs.foldr Token.push []

theorem tokenize_append (cs rest : List Char) :
    tokenize (cs ++ rest) = cs.foldr Token.push (tokenize rest) :=
  List.foldr_append

/-- No word goes on here: the text ends, or a character stands here that is part of none. -/
def WordEnds (cs : List Char) : Prop :=
  ∀ c ∈ cs.head?, Name.isPart c = false

theorem WordEnds.nil : WordEnds [] := by
  intro c hc
  cases hc

theorem WordEnds.cons {c : Char} (h : Name.isPart c = false) (rest : List Char) :
    WordEnds (c :: rest) := by
  intro d hd
  obtain rfl := Option.some.inj hd
  exact h

theorem head?_tokenize {cs : List Char} (h : WordEnds cs) (text : String) :
    (tokenize cs).head? ≠ some (.word text) := by
  cases cs with
  | nil => simp [tokenize]
  | cons c cs =>
    have hc : Name.isPart c = false := h c rfl
    show (Token.push c (tokenize cs)).head? ≠ _
    rw [Token.push, hc]
    simp

/-- Where no word goes on, the characters of a word become one token. -/
theorem tokenize_word {w rest : List Char} (hw : w ≠ []) (hparts : ∀ c ∈ w, Name.isPart c = true)
    (hrest : WordEnds rest) : tokenize (w ++ rest) = .word (String.ofList w) :: tokenize rest := by
  induction w with
  | nil => exact absurd rfl hw
  | cons c cs ih =>
    have hc : Name.isPart c = true := hparts c List.mem_cons_self
    show Token.push c (tokenize (cs ++ rest)) = _
    rw [Token.push, hc, if_pos rfl]
    cases cs with
    | nil =>
      -- the last character of the word, where what follows is no word
      rw [List.nil_append]
      have hhead := head?_tokenize hrest
      cases htokens : tokenize rest with
      | nil => rfl
      | cons token more =>
        cases token with
        | word text => exact absurd (by rw [htokens, List.head?_cons]) (hhead text)
        | mark d => rfl
    | cons d ds =>
      rw [ih (List.cons_ne_nil d ds) fun e he => hparts e (List.mem_cons_of_mem c he)]
      show Token.word (String.singleton c ++ String.ofList (d :: ds)) :: tokenize rest = _
      have hcons : String.singleton c ++ String.ofList (d :: ds) =
          String.ofList (c :: d :: ds) := by
        rw [← String.toList_inj]
        simp
      rw [hcons]

/-- An identifier is scanned as one word. -/
theorem tokenize_identifier {name : String} (h : Name.isIdentifier name = true) {rest : List Char}
    (hrest : WordEnds rest) : tokenize (name.toList ++ rest) = .word name :: tokenize rest := by
  rw [tokenize_word (Name.toList_ne_nil_of_isIdentifier h) (Name.isPart_of_isIdentifier h) hrest,
    String.ofList_toList]

/-! ### Types -/

namespace TypeExpr

/-- Takes the closing bracket of a type former after the type inside it. -/
def close? (former : String) (inner : TypeExpr) : List Token → Option (TypeExpr × List Token)
  | .mark '>' :: rest =>
    match former with
    | "Vec" => some (.sequence inner, rest)
    | "Option" => some (.optional inner, rest)
    | "Box" => some (.pointer .exclusive inner, rest)
    | "Rc" => some (.pointer .shared inner, rest)
    | _ => none
  | .mark ',' :: .mark ' ' :: .word error :: .mark '>' :: rest =>
    if former = "Result" ∧ error = "NullChildError" then some (.fallible inner, rest) else none
  | _ => none

/-- Takes the closing bracket of a row after the type of its elements. -/
def closeRow? (element : TypeExpr) : List Token → Option (TypeExpr × List Token)
  | .mark ']' :: rest => some (.slice element, rest)
  | _ => none

/-- Reads a type at the front of tokens: the type, and the tokens after it. -/
def read? : List Token → Option (TypeExpr × List Token)
  | .mark '&' :: .mark '[' :: more => do
    let (element, rest) ← read? more
    closeRow? element rest
  | .mark '&' :: more => do
    let (target, rest) ← read? more
    return (.reference target, rest)
  | .word "dyn" :: .mark ' ' :: .word family :: rest => some (.anyOf family, rest)
  | .word former :: .mark '<' :: more => do
    let (inner, rest) ← read? more
    close? former inner rest
  | .word name :: rest => some (.named name, rest)
  | _ => none

/-- The type that a text spells. -/
def ofText? (text : String) : Option TypeExpr :=
  match read? (tokenize text.toList) with
  | some (t, []) => some t
  | _ => none

/-- Nothing of a type goes on here: the text ends, or the type around it does. -/
def Ends (rest : List Char) : Prop :=
  ∀ c ∈ rest.head?, c = '>' ∨ c = ']' ∨ c = ','

theorem Ends.nil : Ends [] := by
  intro c hc
  cases hc

theorem Ends.cons {c : Char} (h : c = '>' ∨ c = ']' ∨ c = ',') (rest : List Char) :
    Ends (c :: rest) := by
  intro d hd
  obtain rfl := Option.some.inj hd
  exact h

theorem Ends.wordEnds {rest : List Char} (h : Ends rest) : WordEnds rest := by
  intro c hc
  rcases h c hc with rfl | rfl | rfl <;> decide

theorem read?_name (name : String) {rest : List Char} (hrest : Ends rest) :
    read? (.word name :: tokenize rest) = some (.named name, tokenize rest) := by
  cases rest with
  | nil => simp [tokenize, read?]
  | cons c rest =>
    -- neither a blank nor an opening bracket follows the name
    rcases hrest c rfl with rfl | rfl | rfl
    · show read? (.word name :: .mark '>' :: tokenize rest) =
        some (.named name, .mark '>' :: tokenize rest)
      simp [read?]
    · show read? (.word name :: .mark ']' :: tokenize rest) =
        some (.named name, .mark ']' :: tokenize rest)
      simp [read?]
    · show read? (.word name :: .mark ',' :: tokenize rest) =
        some (.named name, .mark ',' :: tokenize rest)
      simp [read?]

theorem read?_reference {tokens rest : List Token} {t : TypeExpr}
    (h : read? tokens = some (t, rest)) :
    read? (.mark '&' :: tokens) = some (.reference t, rest) := by
  have hne : ∀ more, tokens ≠ .mark '[' :: more := by
    rintro more rfl
    simp [read?] at h
  rw [read?]
  · rw [h]
    rfl
  · intro more heq
    exact hne more heq

/-- A type former is read with the type between its brackets. -/
theorem read?_former {former : String} {tokens more rest : List Token} {inner t : TypeExpr}
    (hinner : read? tokens = some (inner, more))
    (hclose : close? former inner more = some (t, rest)) :
    read? (.word former :: .mark '<' :: tokens) = some (t, rest) := by
  rw [read?, hinner]
  exact hclose

/-- A type is read from its text, whatever comes after it. -/
theorem read?_text {t : TypeExpr} (ht : Name.isIdentifier t.element = true) {rest : List Char}
    (hrest : Ends rest) : read? (tokenize (t.text.toList ++ rest)) = some (t, tokenize rest) := by
  -- what closes a type ends the type inside it
  have hbracket : '>' = '>' ∨ '>' = ']' ∨ '>' = ',' := .inl rfl
  have hsquare : ']' = '>' ∨ ']' = ']' ∨ ']' = ',' := .inr (.inl rfl)
  have hcomma : ',' = '>' ∨ ',' = ']' ∨ ',' = ',' := .inr (.inr rfl)
  induction t generalizing rest with
  | named name =>
    have hname : Name.isIdentifier name = true := ht
    show read? (tokenize (name.toList ++ rest)) = _
    rw [tokenize_identifier hname hrest.wordEnds]
    exact read?_name name hrest
  | anyOf family =>
    have htokens : tokenize ((TypeExpr.anyOf family).text.toList ++ rest) =
        .word "dyn" :: .mark ' ' :: .word family :: tokenize rest := by
      have hfamily : Name.isIdentifier family = true := ht
      rw [text, String.toList_append, List.append_assoc,
        ← tokenize_identifier hfamily hrest.wordEnds]
      rfl
    rw [htokens]
    rfl
  | sequence t ih =>
    have htokens : tokenize ((TypeExpr.sequence t).text.toList ++ rest) =
        .word "Vec" :: .mark '<' :: tokenize (t.text.toList ++ '>' :: rest) := by
      simp only [text, String.toList_append, List.append_assoc]
      rfl
    rw [htokens]
    exact read?_former (ih ht (.cons hbracket rest)) rfl
  | optional t ih =>
    have htokens : tokenize ((TypeExpr.optional t).text.toList ++ rest) =
        .word "Option" :: .mark '<' :: tokenize (t.text.toList ++ '>' :: rest) := by
      simp only [text, String.toList_append, List.append_assoc]
      rfl
    rw [htokens]
    exact read?_former (ih ht (.cons hbracket rest)) rfl
  | pointer policy t ih =>
    have htokens : tokenize ((TypeExpr.pointer policy t).text.toList ++ rest) =
        .word policy.pointer :: .mark '<' :: tokenize (t.text.toList ++ '>' :: rest) := by
      simp only [text, String.toList_append, List.append_assoc]
      cases policy <;> rfl
    have hclose : close? policy.pointer t (.mark '>' :: tokenize rest) =
        some (.pointer policy t, tokenize rest) := by
      cases policy <;> rfl
    rw [htokens]
    exact read?_former (ih ht (.cons hbracket rest)) hclose
  | reference t ih =>
    have htokens : tokenize ((TypeExpr.reference t).text.toList ++ rest) =
        .mark '&' :: tokenize (t.text.toList ++ rest) := by
      simp only [text, String.toList_append, List.append_assoc]
      rfl
    rw [htokens]
    exact read?_reference (ih ht hrest)
  | slice t ih =>
    have htokens : tokenize ((TypeExpr.slice t).text.toList ++ rest) =
        .mark '&' :: .mark '[' :: tokenize (t.text.toList ++ ']' :: rest) := by
      simp only [text, String.toList_append, List.append_assoc]
      rfl
    have hinner := ih ht (.cons hsquare rest)
    rw [htokens]
    show (read? _).bind _ = _
    rw [hinner]
    rfl
  | fallible t ih =>
    have htokens : tokenize ((TypeExpr.fallible t).text.toList ++ rest) =
        .word "Result" :: .mark '<' ::
          tokenize (t.text.toList ++ (", NullChildError>".toList ++ rest)) := by
      simp only [text, nullChildError, String.toList_append, List.append_assoc]
      rfl
    have hinner : read? (tokenize (t.text.toList ++ (", NullChildError>".toList ++ rest))) =
        some (t, tokenize (", NullChildError>".toList ++ rest)) := ih ht (.cons hcomma _)
    rw [htokens]
    exact read?_former hinner rfl

/-- **A type is read back from its text**, if the name in it is an identifier. -/
theorem ofText?_text {t : TypeExpr} (ht : Name.isIdentifier t.element = true) :
    ofText? t.text = some t := by
  have hread := read?_text ht .nil
  rw [List.append_nil] at hread
  rw [ofText?, hread]
  rfl

end TypeExpr

/-! ### Expressions -/

/-- An expression over the slots of a node. -/
inductive Term
  /-- The slot of a name. -/
  | slot (name : String)
  /-- A reference. -/
  | borrow (e : Term)
  /-- A reference to what is there, if there is something. -/
  | asRef (e : Term)
  /-- A reference to what the pointer points to, if there is one. -/
  | asDeref (e : Term)
  /-- What is there, or else the error that names a node type and a field. -/
  | okOrElse (e : Term) (nodeType field : String)
  deriving DecidableEq, Repr

namespace Term

/-- Reads the methods that are called on an expression one after the other. -/
def chain? (e : Term) : List Token → Option Term
  | [] => some e
  | .mark '.' :: .word "as_ref" :: .mark '(' :: .mark ')' :: more => chain? e.asRef more
  | .mark '.' :: .word "as_deref" :: .mark '(' :: .mark ')' :: more => chain? e.asDeref more
  | .mark '.' :: .word "ok_or_else" :: .mark '(' :: .mark '|' :: .mark '|' :: .mark ' ' ::
      .word "NullChildError" :: .mark ':' :: .mark ':' :: .word "new" :: .mark '(' ::
      .mark '"' :: .word nodeType :: .mark '"' :: .mark ',' :: .mark ' ' ::
      .mark '"' :: .word field :: .mark '"' :: .mark ')' :: .mark ')' :: more =>
    chain? (e.okOrElse nodeType field) more
  | _ => none

/-- Reads an expression; a reference is to the whole of what follows. -/
def read? : List Token → Option Term
  | .mark '&' :: .word "self" :: .mark '.' :: .word name :: more =>
    ((slot name).chain? more).map borrow
  | .word "self" :: .mark '.' :: .word name :: more => (slot name).chain? more
  | _ => none

/-- The expression that a text spells. -/
def ofText? (text : String) : Option Term :=
  read? (tokenize text.toList)

/-- The slot that an expression starts from. -/
def root : Term → String
  | slot name => name
  | borrow e => e.root
  | asRef e => e.root
  | asDeref e => e.root
  | okOrElse e _ _ => e.root

end Term

/-- The expression that the body of an accessor stands for. -/
def Access.term : Access → Term
  | .borrow field => .borrow (.slot field)
  | .require nodeType field => .okOrElse (.asDeref (.slot field)) nodeType field
  | .peek field => .asRef (.slot field)

/-- The names in the body of an accessor are identifiers. -/
def Access.IsSpelled : Access → Prop
  | .borrow field => Name.isIdentifier field = true
  | .require nodeType field => Name.isIdentifier nodeType = true ∧ Name.isIdentifier field = true
  | .peek field => Name.isIdentifier field = true

theorem tokenize_self (rest : List Char) :
    tokenize ("self.".toList ++ rest) = .word "self" :: .mark '.' :: tokenize rest := rfl

theorem tokenize_orElse (rest : List Char) :
    tokenize (".as_deref().ok_or_else(|| ".toList ++ rest) =
      .mark '.' :: .word "as_deref" :: .mark '(' :: .mark ')' ::
        .mark '.' :: .word "ok_or_else" :: .mark '(' :: .mark '|' :: .mark '|' :: .mark ' ' ::
        tokenize rest := rfl

theorem tokenize_new (rest : List Char) :
    tokenize ("NullChildError".toList ++ ("::new(\"".toList ++ rest)) =
      .word "NullChildError" :: .mark ':' :: .mark ':' :: .word "new" :: .mark '(' :: .mark '"' ::
        tokenize rest := rfl

/-- Two names in quotes, with a comma between them. -/
theorem tokenize_names {nodeType field : String} (hnodeType : Name.isIdentifier nodeType = true)
    (hfield : Name.isIdentifier field = true) :
    tokenize (nodeType.toList ++ ("\", \"".toList ++ (field.toList ++ "\"))".toList))) =
      [.word nodeType, .mark '"', .mark ',', .mark ' ', .mark '"', .word field, .mark '"',
        .mark ')', .mark ')'] := by
  have hquote : Name.isPart '"' = false := by decide
  have hfirst : tokenize (nodeType.toList ++ ("\", \"".toList ++ (field.toList ++ "\"))".toList))) =
      .word nodeType :: tokenize ("\", \"".toList ++ (field.toList ++ "\"))".toList)) :=
    tokenize_identifier hnodeType (.cons hquote _)
  have hsecond : tokenize (field.toList ++ "\"))".toList) =
      [.word field, .mark '"', .mark ')', .mark ')'] := tokenize_identifier hfield (.cons hquote _)
  rw [hfirst, tokenize_append, hsecond]
  rfl

/-- **The expression of a body is read from its text**, if the names in it are
identifiers. -/
theorem Term.ofText?_text {a : Access} (ha : a.IsSpelled) : Term.ofText? a.text = some a.term := by
  have hdot : Name.isPart '.' = false := by decide
  cases a with
  | borrow field =>
    have hfield : tokenize (field.toList ++ []) = [.word field] := tokenize_identifier ha .nil
    have htext : (Access.borrow field).text = "&self." ++ field := rfl
    have htokens : tokenize ("&self." ++ field).toList =
        [.mark '&', .word "self", .mark '.', .word field] := by
      rw [String.toList_append, ← List.append_nil field.toList, tokenize_append, hfield]
      rfl
    rw [ofText?, htext, htokens]
    rfl
  | require nodeType field =>
    obtain ⟨hnodeType, hfield⟩ := ha
    have htext : (Access.require nodeType field).text = "self." ++ field ++
        ".as_deref().ok_or_else(|| " ++ "NullChildError" ++ "::new(\"" ++ nodeType ++ "\", \"" ++
        field ++ "\"))" := rfl
    have hslot : ∀ rest, tokenize (field.toList ++ (".as_deref().ok_or_else(|| ".toList ++ rest)) =
        .word field :: tokenize (".as_deref().ok_or_else(|| ".toList ++ rest) :=
      fun rest => tokenize_identifier hfield (.cons hdot _)
    rw [ofText?, htext]
    simp only [String.toList_append, List.append_assoc]
    rw [tokenize_self, hslot, tokenize_orElse, tokenize_new, tokenize_names hnodeType hfield]
    rfl
  | peek field =>
    have hfield : tokenize (field.toList ++ ".as_ref()".toList) =
        [.word field, .mark '.', .word "as_ref", .mark '(', .mark ')'] :=
      tokenize_identifier ha (.cons hdot _)
    have htext : (Access.peek field).text = "self." ++ field ++ ".as_ref()" := rfl
    rw [ofText?, htext]
    simp only [String.toList_append, List.append_assoc]
    rw [tokenize_self, hfield]
    rfl

end TreeSmith
