import TreeSmith.Definition.Template

/-!
# Templates as they are laid out

Text with outputs and blocks between it, and how it is read back.  A layout is made of
phrases, which are expressions together with the words that they are written with, and
of blocks, whose tags either stand on lines of their own or inside a line.  The source
of a layout is read as the nodes that the layout stands for: a tag at the end of a line
takes the line feed after it away and nothing else, and text comes back as it is.

A piece is read together with whatever follows it, so every statement here has the rest
of the source in it.  A body ends where a tag follows, which is why text is read in
front of what can follow it (`Follows`) and not by itself.

## Main definitions

* `Phrase`, `Head` — expressions and opening tags with the words for them.
* `Layout` — a template before it is written.
* `Layout.source`, `Layout.nodes` — its text, and the nodes it stands for.
* `Layout.Valid` — its texts hold no openings, and none ends in blanks before a tag
  that would take them.

## Main results

* `Layout.reads_source` — the pieces of a source.
* `Layout.builds_pieces` — the nodes of those pieces.
* `Layout.parse?_source` — **a layout is read back from its source.**
-/

namespace TreeSmith.Template

/-! ### Tokens -/

/-- The text is a name or word of an expression. -/
def isWord (w : String) : Bool :=
  w.toList.head?.any isWordStart && w.toList.all isWordPart

/-- The characters that may stand at the end of an expression or tag. -/
def endChars : List Char := ['-', '+', '}', '%']

/-- How many brackets are open after a token. -/
def depthAfter (depth : Nat) : Token → Nat
  | .mark m => bracketDepth depth m
  | _ => depth

/-- From a place with `depth` open brackets to the end of the expression or tag, there
are these tokens, and the rest follows. -/
def Lexes (closing : Char) (depth : Nat) (cs : List Char) (ts : List Token) (rest : List Char) :
    Prop :=
  ∀ fuel, cs.length < fuel → readTokens closing fuel depth cs = some (ts, .usual, rest)

theorem isWordStart_of_isAsciiSpace {c : Char} (hc : isAsciiSpace c = true) :
    isWordStart c = false := by
  simp only [isAsciiSpace, Bool.or_eq_true, decide_eq_true_eq] at hc
  rcases hc with (((rfl | rfl) | rfl) | rfl) | hfeed
  · rfl
  · rfl
  · rfl
  · rfl
  · have hc : c = Char.ofNat 12 := by rw [← hfeed, Char.ofNat_toNat]
    exact hc ▸ rfl

theorem notMem_endChars_of_isWordStart {c : Char} (hc : isWordStart c = true) :
    c ∉ endChars := by
  intro h
  simp only [endChars, List.mem_cons, List.not_mem_nil, or_false] at h
  rcases h with rfl | rfl | rfl | rfl <;> simp [isWordStart] at hc

theorem readEnd_eq_none {closing c : Char} (cs : List Char)
    (hclosing : closing = '}' ∨ closing = '%') (hc : c ∉ endChars) :
    readEnd closing (c :: cs) = none := by
  simp only [endChars, List.mem_cons, List.not_mem_nil, or_false, not_or] at hc
  obtain ⟨hminus, hplus, hbrace, hpercent⟩ := hc
  have hne : c ≠ closing := by
    rcases hclosing with rfl | rfl <;> assumption
  unfold readEnd
  split <;> simp_all

namespace Lexes

variable {closing : Char} {depth : Nat} {cs : List Char} {ts : List Token} {rest : List Char}

theorem stop (rest : List Char) (hclosing : closing = '}' ∨ closing = '%') :
    Lexes closing 0 (closing :: '}' :: rest) [] rest := by
  intro fuel hfuel
  obtain ⟨fuel, rfl⟩ := Nat.exists_eq_add_one_of_ne_zero (Nat.ne_zero_of_lt hfuel)
  rcases hclosing with rfl | rfl <;> rfl

theorem space (h : Lexes closing depth cs ts rest) : Lexes closing depth (' ' :: cs) ts rest := by
  intro fuel hfuel
  obtain ⟨fuel, rfl⟩ := Nat.exists_eq_add_one_of_ne_zero (Nat.ne_zero_of_lt hfuel)
  exact h (fuel + 1) (Nat.lt_of_succ_lt hfuel)

theorem token {more : List Char} {t : Token} (htoken : readToken cs = some (t, more))
    (hspace : cs.dropWhile isAsciiSpace = cs) (hend : depth = 0 → readEnd closing cs = none)
    (hlen : more.length < cs.length) (h : Lexes closing (depthAfter depth t) more ts rest) :
    Lexes closing depth cs (t :: ts) rest := by
  intro fuel hfuel
  obtain ⟨fuel, rfl⟩ := Nat.exists_eq_add_one_of_ne_zero (Nat.ne_zero_of_lt hfuel)
  have hmore := h fuel (by omega)
  have hnone : (if depth = 0 then readEnd closing cs else none) = none := by
    split
    · exact hend ‹_›
    · rfl
  simp only [readTokens, hspace, hnone, htoken, Option.bind_eq_bind, Option.bind_some]
  cases t <;> simp only [depthAfter] at hmore <;> simp [hmore]

theorem mark {c : Char} {m : Mark} (hclosing : closing = '}' ∨ closing = '%')
    (hend : c ∉ endChars) (hspace : isAsciiSpace c = false)
    (hmark : readToken (c :: cs) = some (.mark m, cs))
    (h : Lexes closing (bracketDepth depth m) cs ts rest) :
    Lexes closing depth (c :: cs) (.mark m :: ts) rest :=
  token hmark (by simp [hspace]) (fun _ => readEnd_eq_none cs hclosing hend)
    (Nat.lt_succ_self _) h

/-- A word takes up all characters that can belong to one, so what follows must not
start with such a character. -/
theorem word {w : String} (hclosing : closing = '}' ∨ closing = '%') (hw : isWord w = true)
    (hcs : cs.head?.all (!isWordPart ·) = true) (h : Lexes closing depth cs ts rest) :
    Lexes closing depth (w.toList ++ cs) (.word w :: ts) rest := by
  simp only [isWord, Bool.and_eq_true, List.all_eq_true] at hw
  obtain ⟨hstart, hpart⟩ := hw
  cases hchars : w.toList with
  | nil => simp [hchars] at hstart
  | cons c more =>
    rw [hchars] at hpart
    have hc : isWordStart c = true := by simpa [hchars] using hstart
    have hspace : ¬ isAsciiSpace c = true := fun h => by
      simp [isWordStart_of_isAsciiSpace h] at hc
    have htake : (c :: more ++ cs).takeWhile isWordPart = c :: more := by
      rw [List.takeWhile_append_of_pos hpart]
      cases cs <;> simp_all
    have hdrop : (c :: more ++ cs).dropWhile isWordPart = cs := by
      rw [List.dropWhile_append_of_pos hpart]
      cases cs <;> simp_all
    have htoken : readToken (c :: more ++ cs) = some (.word w, cs) := by
      rw [List.cons_append] at htake hdrop ⊢
      simp only [readToken, hc, if_true, htake, hdrop]
      rw [← hchars, String.ofList_toList]
    have hend := readEnd_eq_none (more ++ cs) hclosing (notMem_endChars_of_isWordStart hc)
    refine token htoken ?_ (fun _ => hend) ?_ h
    · simp [hspace]
    · simp only [List.length_append, List.length_cons]
      omega

end Lexes

/-- The words are read as these tokens, whatever follows them after a blank. -/
def Spells (words : String) (tokens : List Token) : Prop :=
  ∀ closing cs ts rest, closing = '}' ∨ closing = '%' → Lexes closing 0 (' ' :: cs) ts rest →
    Lexes closing 0 (words.toList ++ ' ' :: cs) (tokens ++ ts) rest

namespace Spells

theorem word {w : String} (hw : isWord w = true) : Spells w [.word w] :=
  fun _ _ _ _ hclosing h => h.word hclosing hw rfl

theorem member {v w : String} (hv : isWord v = true) (hw : isWord w = true) :
    Spells (v ++ "." ++ w) [.word v, .mark .dot, .word w] := by
  intro closing cs ts rest hclosing h
  have hdot : Lexes closing 0 ('.' :: (w.toList ++ ' ' :: cs)) (.mark .dot :: .word w :: ts) rest :=
    (h.word hclosing hw rfl).mark hclosing (by decide) rfl rfl
  have hall := hdot.word hclosing hv rfl
  simpa using hall

theorem append {v w : String} {s t : List Token} (hv : Spells v s) (hw : Spells w t) :
    Spells (v ++ " " ++ w) (s ++ t) := by
  intro closing cs ts rest hclosing h
  have hsecond := (hw closing cs ts rest hclosing h).space
  have hall := hv closing _ _ rest hclosing hsecond
  simpa using hall

theorem joined {words : String} {tokens : List Token} (hwords : Spells words tokens) :
    Spells (words ++ " | join(\", \")")
      (tokens ++ [.mark .bar, .word "join", .mark .openParen, .text ", ", .mark .closeParen]) := by
  intro closing cs ts rest hclosing h
  -- from the closing parenthesis back to the bar
  have hclose : Lexes closing 1 (')' :: ' ' :: cs) (.mark .closeParen :: ts) rest :=
    h.mark hclosing (by decide) rfl rfl
  have htext : Lexes closing 1 ('"' :: ',' :: ' ' :: '"' :: ')' :: ' ' :: cs)
      (.text ", " :: .mark .closeParen :: ts) rest :=
    hclose.token rfl rfl (fun h => absurd h (by decide)) (by simp)
  have hparen : Lexes closing 0 ('(' :: '"' :: ',' :: ' ' :: '"' :: ')' :: ' ' :: cs)
      (.mark .openParen :: .text ", " :: .mark .closeParen :: ts) rest :=
    htext.mark hclosing (by decide) rfl rfl
  have hword := (hparen.word hclosing (w := "join") (by decide) rfl).space
  have hbar := (hword.mark hclosing (c := '|') (m := .bar) (by decide) rfl rfl).space
  have hall := hwords closing _ _ rest hclosing hbar
  simpa using hall

end Spells

/-! ### Expressions -/

/-- No operator continues an expression in front of these tokens. -/
def Closes (rest : List Token) : Prop :=
  comparison? rest = none ∧ ∀ level, operatorAt? level rest = none

/-- The tokens up to the rest are an expression with no operator outside of brackets,
and so much fuel and depth are enough to read it. -/
def FormsUnary (need : Nat) (ts : List Token) (e : Expr) (rest : List Token) : Prop :=
  ∀ fuel depth, need ≤ fuel → depth + need ≤ maxDepth →
    readLevel fuel depth unaryLevel ts = some (e, rest)

/-- The tokens are an expression that is no choice. -/
def Forms (ts : List Token) (e : Expr) : Prop :=
  ∀ fuel depth, exprFuel ts ≤ fuel + 2 → depth + 20 ≤ maxDepth →
    readLevel fuel depth 0 ts = some (e, [])

theorem closes_nil : Closes [] :=
  ⟨rfl, fun _ => rfl⟩

theorem closes_closeParen (ts : List Token) : Closes (.mark .closeParen :: ts) :=
  ⟨rfl, fun level => by simp [operatorAt?]⟩

theorem readLevel_of_succ {fuel depth level : Nat} {ts rest : List Token} {e : Expr}
    (hnot : level = notLevel → ∀ more, ts ≠ .word "not" :: more) (hlevel : level < unaryLevel)
    (hrest : Closes rest) (h : readLevel (fuel + 1) depth (level + 1) ts = some (e, rest)) :
    readLevel (fuel + 2) depth level ts = some (e, rest) := by
  -- each level first reads the next one and then looks for an operator of its own
  obtain ⟨hcompare, hoperate⟩ := hrest
  rw [readLevel.eq_def]
  dsimp only
  split
  · split
    · exact absurd rfl (hnot ‹_› _)
    · exact h
  · split
    · simp [h, readComparisons, hcompare]
    · simp [Nat.ne_of_lt hlevel, h, readOperators, hoperate]

/-- What is read at a level is read at every looser one.  Only on the way past the level
of `not` does it matter how the tokens start. -/
theorem readLevel_of_le {fuel depth top : Nat} {ts rest : List Token} {e : Expr}
    (htop : top ≤ unaryLevel) (hrest : Closes rest)
    (h : readLevel (fuel + 1) depth top ts = some (e, rest)) (k : Nat) (hk : k ≤ top)
    (hnot : top - k ≤ notLevel → notLevel < top → ∀ more, ts ≠ .word "not" :: more) :
    readLevel (fuel + k + 1) depth (top - k) ts = some (e, rest) := by
  induction k with
  | zero => exact h
  | succ k ih =>
    have hlevel := ih (by omega) (fun hle => hnot (by omega))
    rw [show top - k = top - (k + 1) + 1 by omega] at hlevel
    refine readLevel_of_succ (fun heq => ?_) (by omega) hrest hlevel
    exact hnot (Nat.le_of_eq heq) (by omega)

namespace FormsUnary

variable {need : Nat} {ts rest : List Token} {e : Expr}

theorem mono {more : Nat} (h : FormsUnary need ts e rest) (hmore : need ≤ more) :
    FormsUnary more ts e rest :=
  fun fuel depth hfuel hdepth => h fuel depth (by omega) (by omega)

theorem readLevel_zero (h : FormsUnary (need + 1) ts e rest) (hrest : Closes rest)
    (hnot : ∀ more, ts ≠ .word "not" :: more) {fuel depth : Nat}
    (hfuel : need + unaryLevel + 1 ≤ fuel) (hdepth : depth + need < maxDepth) :
    readLevel fuel depth 0 ts = some (e, rest) := by
  obtain ⟨more, rfl⟩ := Nat.exists_eq_add_of_le hfuel
  have hunary := h (need + more + 1) depth (by omega) hdepth
  have hzero := readLevel_of_le Nat.le.refl hrest hunary unaryLevel Nat.le.refl (fun _ _ => hnot)
  rwa [show need + unaryLevel + 1 + more = need + more + unaryLevel + 1 by omega]

theorem forms (h : FormsUnary 20 ts e []) (hnot : ∀ more, ts ≠ .word "not" :: more) :
    Forms ts e := by
  intro fuel depth hfuel hdepth
  simp only [exprFuel] at hfuel
  exact h.readLevel_zero closes_nil hnot (by simp only [unaryLevel]; omega) hdepth

theorem not (h : FormsUnary 20 ts e []) (hnot : ∀ more, ts ≠ .word "not" :: more) :
    Forms (.word "not" :: ts) (.not e) := by
  intro fuel depth hfuel hdepth
  simp only [exprFuel, List.length_cons] at hfuel
  -- six levels down from the operand to the one of `not`, and two more to the loosest
  obtain ⟨fuel, rfl⟩ : ∃ f, fuel = f + 19 + 6 + 1 + 2 + 1 := ⟨fuel - 29, by omega⟩
  have hunary := h (fuel + 19 + 1) depth (by omega) hdepth
  have hinner := readLevel_of_le Nat.le.refl closes_nil hunary 6 (by decide) (fun _ _ => hnot)
  have houter : readLevel (fuel + 19 + 6 + 1 + 1) depth notLevel (.word "not" :: ts) =
      some (.not e, []) := by
    rw [readLevel, if_pos rfl, show notLevel = unaryLevel - 6 from rfl, hinner]
    rfl
  exact readLevel_of_le (by decide) closes_nil houter 2 Nat.le.refl
    (fun _ h => absurd h (Nat.lt_irrefl _))

end FormsUnary

/-- The words that are no names. -/
def keywords : List String :=
  ["not", "true", "True", "false", "False", "none", "None"]

/-- The word stands for itself as an expression. -/
def isName (w : String) : Bool :=
  !(keywords.contains w)

theorem wordExpr_of_isName {w : String} (hw : isName w = true) : wordExpr w = .name w := by
  simp [isName, keywords] at hw
  simp [wordExpr, hw]

theorem word_ne_not {w : String} {ts : List Token} (hw : isName w = true) (more : List Token) :
    Token.word w :: ts ≠ .word "not" :: more := by
  rintro ⟨rfl⟩
  simp [isName, keywords] at hw

theorem readLevel_unary (fuel depth : Nat) (ts : List Token) :
    readLevel (fuel + 1) depth unaryLevel ts = (do
      let (e, ts) ← readSigned fuel depth ts
      let (e, ts) ← readParts fuel depth e ts
      readFilters fuel depth e ts) := by
  rw [readLevel.eq_def]
  rfl

theorem readSigned_name {fuel depth : Nat} {w : String} (ts : List Token)
    (hw : isName w = true) (hdepth : depth < maxDepth) :
    readSigned (fuel + 2) depth (.word w :: ts) = some (.name w, ts) := by
  simp [readSigned, readPrimary, Nat.not_le_of_lt hdepth, wordExpr_of_isName hw]

theorem formsUnary_name {w : String} (hw : isName w = true) :
    FormsUnary 3 [.word w] (.name w) [] := by
  intro fuel depth hfuel hdepth
  obtain ⟨fuel, rfl⟩ := Nat.exists_eq_add_of_le hfuel
  rw [Nat.add_comm, readLevel_unary, readSigned_name _ hw (by omega)]
  simp [readParts, readFilters]

theorem formsUnary_member {v w : String} (hv : isName v = true) :
    FormsUnary 3 [.word v, .mark .dot, .word w] (.member (.name v) w) [] := by
  intro fuel depth hfuel hdepth
  obtain ⟨fuel, rfl⟩ := Nat.exists_eq_add_of_le hfuel
  rw [Nat.add_comm, readLevel_unary, readSigned_name _ hv (by omega)]
  simp [readParts, readFilters]

theorem formsUnary_text (s : String) (rest : List Token) :
    FormsUnary 3 (.text s :: .mark .closeParen :: rest) (.text s) (.mark .closeParen :: rest) := by
  intro fuel depth hfuel hdepth
  obtain ⟨fuel, rfl⟩ := Nat.exists_eq_add_of_le hfuel
  have hmax : ¬ maxDepth ≤ depth := by omega
  rw [Nat.add_comm, readLevel_unary]
  simp [readSigned, readPrimary, readParts, readFilters, hmax]

theorem readExpr_text {fuel depth : Nat} (s : String) (rest : List Token)
    (hdepth : depth + 4 ≤ maxDepth) :
    readExpr (fuel + 13) depth (.text s :: .mark .closeParen :: rest) =
      some (.text s, .mark .closeParen :: rest) := by
  have hmax : ¬ maxDepth ≤ depth := by omega
  have hzero : readLevel (fuel + 11) (depth + 1) 0 (.text s :: .mark .closeParen :: rest) = _ :=
    (formsUnary_text s rest).readLevel_zero (closes_closeParen rest) (fun more => by simp)
      (by simp only [unaryLevel]; omega) (by omega)
  simp [readExpr, hmax, readOpen, hzero, readChoice]

theorem readArgs_text {fuel depth : Nat} (s : String) (rest : List Token)
    (hdepth : depth + 4 ≤ maxDepth) :
    readArgs (fuel + 14) depth false (.text s :: .mark .closeParen :: rest) =
      some ([(.placed, .text s)], rest) := by
  simp [readArgs, readExpr_text s rest hdepth, readMoreArgs]

theorem formsUnary_joined {v w : String} (hv : isName v = true) :
    FormsUnary 20 [.word v, .mark .dot, .word w, .mark .bar, .word "join", .mark .openParen,
      .text ", ", .mark .closeParen]
      (.filter (.member (.name v) w) "join" [(.placed, .text ", ")]) [] := by
  intro fuel depth hfuel hdepth
  obtain ⟨fuel, rfl⟩ := Nat.exists_eq_add_of_le hfuel
  have hargs : readArgs (fuel + 3 + 14) depth false [.text ", ", .mark .closeParen] = _ :=
    readArgs_text ", " [] (by omega)
  rw [Nat.add_comm, readLevel_unary, readSigned_name _ hv (by omega)]
  simp [readParts, readFilters, readOptionalArgs, hargs]

/-! ### Phrases -/

/-- An expression and the words that it is written with. -/
structure Phrase where
  /-- The words. -/
  words : String
  /-- Their tokens. -/
  tokens : List Token
  /-- The expression. -/
  expr : Expr
  /-- The words are read as the tokens. -/
  spells : Spells words tokens
  /-- The tokens are read as the expression. -/
  forms : Forms tokens expr

namespace Phrase

/-- A name. -/
def name (w : String) (h : (isWord w && isName w) = true := by decide) : Phrase where
  words := w
  tokens := [.word w]
  expr := .name w
  spells := Spells.word (Bool.and_eq_true_iff.1 h).1
  forms :=
    have hw := (Bool.and_eq_true_iff.1 h).2
    ((formsUnary_name hw).mono (by decide)).forms (word_ne_not hw)

/-- A part of what a name stands for. -/
def member (v w : String) (h : (isWord v && isName v && isWord w) = true := by decide) :
    Phrase where
  words := v ++ "." ++ w
  tokens := [.word v, .mark .dot, .word w]
  expr := .member (.name v) w
  spells := by
    simp only [Bool.and_eq_true] at h
    exact Spells.member h.1.1 h.2
  forms := by
    simp only [Bool.and_eq_true] at h
    exact ((formsUnary_member h.1.2).mono (by decide)).forms (word_ne_not h.1.2)

/-- The items of a part with commas between them. -/
def joined (v w : String) (h : (isWord v && isName v && isWord w) = true := by decide) :
    Phrase where
  words := v ++ "." ++ w ++ " | join(\", \")"
  tokens := [.word v, .mark .dot, .word w, .mark .bar, .word "join", .mark .openParen,
    .text ", ", .mark .closeParen]
  expr := .filter (.member (.name v) w) "join" [(.placed, .text ", ")]
  spells := by
    simp only [Bool.and_eq_true] at h
    exact (Spells.member h.1.1 h.2).joined
  forms := by
    simp only [Bool.and_eq_true] at h
    exact (formsUnary_joined h.1.2).forms (word_ne_not h.1.2)

/-- The denial of a part. -/
def notMember (v w : String) (h : (isWord v && isName v && isWord w) = true := by decide) :
    Phrase where
  words := "not" ++ " " ++ (v ++ "." ++ w)
  tokens := [.word "not", .word v, .mark .dot, .word w]
  expr := .not (.member (.name v) w)
  spells := by
    simp only [Bool.and_eq_true] at h
    exact (Spells.word (by decide)).append (Spells.member h.1.1 h.2)
  forms := by
    simp only [Bool.and_eq_true] at h
    exact ((formsUnary_member h.1.2).mono (by decide)).not (word_ne_not h.1.2)

theorem wholeExpr?_tokens (p : Phrase) {depth : Nat} (hdepth : depth + 21 ≤ maxDepth) :
    wholeExpr? depth p.tokens = some p.expr := by
  have hmax : ¬ maxDepth ≤ depth := by omega
  obtain ⟨fuel, hfuel⟩ : ∃ fuel, exprFuel p.tokens = fuel + 1 + 2 :=
    ⟨exprFuel p.tokens - 3, by simp only [exprFuel]; omega⟩
  have hlevel := p.forms (fuel + 1) (depth + 1) (Nat.le_of_eq hfuel) (by omega)
  simp [wholeExpr?, hfuel, readExpr, hmax, readOpen, hlevel, readChoice]

theorem readLevel_tokens (p : Phrase) {depth : Nat} (hdepth : depth + 20 ≤ maxDepth) :
    readLevel (exprFuel p.tokens) depth 0 p.tokens = some (p.expr, []) :=
  p.forms _ depth (Nat.le_add_right _ _) hdepth

end Phrase

/-! ### Pieces -/

/-- No opening starts in the text or at its end. -/
def isPlain : List Char → Bool
  | [] => true
  | [c] => c ≠ '{'
  | c :: d :: cs => (c ≠ '{' || (d ≠ '{' && d ≠ '%' && d ≠ '#')) && isPlain (d :: cs)

/-- A tag after the text takes no blanks from it. -/
def Tight (t : List Char) : Prop :=
  ∀ blank, spaceBefore .usual .tag (lineIsBlank blank t) t = t
  deriving Decidable

/-- The source from a place on is read as these pieces. -/
def Reads (cs : List Char) (ps : List Piece) : Prop :=
  ∀ fuel blank, cs.length < fuel → readPieces fuel blank cs = some ps

/-- After any text, the source from a place on is read as these pieces. -/
def Follows (cs : List Char) (ps : List Piece) : Prop :=
  ∀ t, isPlain t = true → Tight t → Reads (t ++ cs) (textPiece t ++ ps)

theorem splitAtOpening_cons {c : Char} {cs : List Char}
    (h : c = '{' → cs.head?.any (fun d => d ≠ '{' && d ≠ '%' && d ≠ '#') = true) :
    splitAtOpening (c :: cs) = (c :: (splitAtOpening cs).1, (splitAtOpening cs).2) := by
  rw [splitAtOpening.eq_def]
  split <;> simp_all

theorem splitAtOpening_append {t : List Char} (more : List Char) (ht : isPlain t = true) :
    splitAtOpening (t ++ more) =
      (t ++ (splitAtOpening more).1, (splitAtOpening more).2) := by
  fun_induction isPlain t with
  | case1 => rfl
  | case2 c => exact splitAtOpening_cons (fun hc => by simp [hc] at ht)
  | case3 c d cs ih =>
    simp only [Bool.and_eq_true] at ht
    have hcons : splitAtOpening (c :: (d :: cs ++ more)) = _ :=
      splitAtOpening_cons (fun hc => by simpa [hc] using ht.1)
    rw [List.cons_append, hcons, ih ht.2]
    rfl

theorem follows_nil : Follows [] [] := by
  intro t ht _ fuel blank hfuel
  obtain ⟨fuel, rfl⟩ := Nat.exists_eq_add_one_of_ne_zero (Nat.ne_zero_of_lt hfuel)
  have hsplit := splitAtOpening_append [] ht
  simp only [splitAtOpening, List.append_nil] at hsplit
  simp [readPieces, hsplit]

theorem reads_opening {opening : Opening} {t cs more rest : List Char} {piece ps : List Piece}
    (hsplit : splitAtOpening cs = (t, some (opening, ' ' :: more)))
    (hkept : ∀ blank, spaceBefore .usual opening (lineIsBlank blank t) t = t)
    (hpiece : readPiece opening (' ' :: more) = some (piece, .usual, rest))
    (hlen : rest.length < cs.length)
    (hrest : Reads (rest.drop (spaceAfter .usual opening rest).length) ps) :
    Reads cs (textPiece t ++ piece ++ ps) := by
  intro fuel blank hfuel
  obtain ⟨fuel, rfl⟩ := Nat.exists_eq_add_one_of_ne_zero (Nat.ne_zero_of_lt hfuel)
  have hmore : (rest.drop (spaceAfter .usual opening rest).length).length < fuel := by
    rw [List.length_drop]
    omega
  rw [readPieces, hsplit]
  simp [readSpacing, hpiece, hkept, hrest _ _ hmore]

theorem Lexes.readPiece_output {cs rest : List Char} {ts : List Token}
    (h : Lexes '}' 0 cs ts rest) : readPiece .output cs = some ([.output ts], .usual, rest) := by
  rw [readPiece, h _ (Nat.lt_succ_self _)]
  rfl

theorem Lexes.readPiece_tag {cs rest : List Char} {ts : List Token} (h : Lexes '%' 0 cs ts rest)
    (hraw : readWordTag "raw".toList cs = none) :
    readPiece .tag cs = some ([.tag ts], .usual, rest) := by
  rw [readPiece, hraw, h _ (Nat.lt_succ_self _)]
  rfl

theorem Spells.lexes {words : String} {tokens : List Token} (h : Spells words tokens)
    {closing : Char} (hclosing : closing = '}' ∨ closing = '%') (rest : List Char) :
    Lexes closing 0 (' ' :: (words.toList ++ ' ' :: closing :: '}' :: rest)) tokens rest := by
  have hwords := h closing _ [] rest hclosing (Lexes.stop rest hclosing).space
  rw [List.append_nil] at hwords
  exact hwords.space

theorem reads_slot {t rest : List Char} {words : String} {tokens : List Token} {ps : List Piece}
    (ht : isPlain t = true) (hwords : Spells words tokens) (hrest : Reads rest ps) :
    Reads (t ++ ((slot words).toList ++ rest)) (textPiece t ++ .output tokens :: ps) := by
  have hsplit : splitAtOpening (t ++ ((slot words).toList ++ rest)) =
      (t, some (.output, ' ' :: (words.toList ++ ' ' :: '}' :: '}' :: rest))) := by
    rw [splitAtOpening_append _ ht]
    simp [slot, splitAtOpening]
  have hpiece := (hwords.lexes (.inl rfl) rest).readPiece_output
  have hread := reads_opening hsplit (fun _ => rfl) hpiece (by simp [slot]; omega) hrest
  rwa [List.append_assoc] at hread

/-- A tag is not taken for one that starts verbatim text. -/
def startsPlain (words : String) : Bool :=
  words.toList.head?.any fun c => c ≠ 'r' && !isAsciiSpace c

theorem readWordTag_raw {words : String} (cs : List Char) (h : startsPlain words = true) :
    readWordTag "raw".toList (' ' :: (words.toList ++ cs)) = none := by
  cases hchars : words.toList with
  | nil => simp [startsPlain, hchars] at h
  | cons c more =>
    simp only [startsPlain, hchars, List.head?_cons, Option.any_some, Bool.and_eq_true,
      decide_eq_true_eq, Bool.not_eq_true'] at h
    have hspace : (' ' :: (c :: more ++ cs)).dropWhile isAsciiSpace = c :: (more ++ cs) := by
      rw [List.dropWhile_cons, if_pos (by decide), List.cons_append, List.dropWhile_cons, h.2]
      rfl
    rw [readWordTag, hspace]
    simp [Ne.symm h.1]

/-- What follows a tag on its line. -/
inductive TagEnd
  /-- The line ends. -/
  | line
  /-- The line goes on. -/
  | within
  deriving DecidableEq, Repr

/-- The text after a tag up to where reading goes on. -/
def TagEnd.text : TagEnd → String
  | .line => "\n"
  | .within => ""

theorem TagEnd.drop_spaceAfter (e : TagEnd) {rest : List Char}
    (he : e = .within → lineEnd rest = []) :
    (e.text.toList ++ rest).drop (spaceAfter .usual .tag (e.text.toList ++ rest)).length =
      rest := by
  cases e with
  | line => rfl
  | within => simp [TagEnd.text, spaceAfter, he rfl]

theorem follows_tag {rest : List Char} {words : String} {tokens : List Token} {ps : List Piece}
    (hwords : Spells words tokens) (hstart : startsPlain words = true) (e : TagEnd)
    (he : e = .within → lineEnd rest = []) (hrest : Reads rest ps) :
    Follows ((tag words).toList ++ (e.text.toList ++ rest)) (.tag tokens :: ps) := by
  intro t ht htight
  have hsplit : splitAtOpening (t ++ ((tag words).toList ++ (e.text.toList ++ rest))) =
      (t, some (.tag, ' ' :: (words.toList ++ ' ' :: '%' :: '}' :: (e.text.toList ++ rest)))) := by
    rw [splitAtOpening_append _ ht]
    simp [tag, splitAtOpening]
  have hpiece := (hwords.lexes (.inr rfl) (e.text.toList ++ rest)).readPiece_tag
    (readWordTag_raw _ hstart)
  -- the line feed after the tag belongs to it, so reading goes on behind it
  rw [← e.drop_spaceAfter he] at hrest
  have hread := reads_opening hsplit htight hpiece (by simp [tag]; omega) hrest
  rwa [List.append_assoc] at hread

/-! ### Nodes -/

/-- The pieces from a place on are read as these nodes up to a tag that ends or divides
them, and the rest follows. -/
def Builds (depth : Nat) (ps : List Piece) (nodes : List Node)
    (stop : Option (String × List Token)) (rest : List Piece) : Prop :=
  ∀ fuel, 4 * ps.length < fuel → readNodes fuel depth ps = some (nodes, stop, rest)

/-- An opening tag with the words that it is written with, and the node that it makes of
its body. -/
structure Head where
  /-- The words. -/
  words : String
  /-- The first word. -/
  keyword : String
  /-- The tokens after the first word. -/
  tokens : List Token
  /-- The word of the closing tag. -/
  closing : String
  /-- The node that holds a body. -/
  node : List Node → Node
  /-- The words are read as the tokens. -/
  spells : Spells words (.word keyword :: tokens)
  /-- The words start no verbatim text. -/
  starts : startsPlain words = true
  /-- The first word divides no body. -/
  opens : isDivider keyword = false
  /-- The closing word is one. -/
  closes : (isWord closing && startsPlain closing && isDivider closing) = true
  /-- The tag is read together with the body up to the closing tag. -/
  reads : ∀ {depth : Nat} {ps rest : List Piece} {body : List Node}, depth + 20 ≤ maxDepth →
    Builds depth ps body (some (closing, [])) rest →
    ∀ fuel, 4 * ps.length + 3 ≤ fuel → readTag fuel depth keyword tokens ps = some (node body, rest)

/-- The name can be given to the items of a loop. -/
def isVariable (x : String) : Bool :=
  isWord x && !isReserved x && x ≠ "in"

theorem readLoopHead_name {depth : Nat} {x : String} (hx : isVariable x = true) (p : Phrase)
    (hdepth : depth + 20 ≤ maxDepth) :
    readLoopHead depth (.word x :: .word "in" :: p.tokens) = some (.name x, p.expr, none) := by
  simp [isVariable] at hx
  simp [readLoopHead, readTarget, readTargets, endsTargets, hx, readSingleTarget,
    p.readLevel_tokens hdepth]

/-- A loop over what an expression stands for. -/
def Head.loop (x : String) (p : Phrase) (hx : isVariable x = true := by decide) : Head where
  words := "for" ++ " " ++ (x ++ " " ++ ("in" ++ " " ++ p.words))
  keyword := "for"
  tokens := .word x :: .word "in" :: p.tokens
  closing := "endfor"
  node body := .loop (.name x) p.expr none body []
  spells := by
    have hword : isWord x = true := by
      simp only [isVariable, Bool.and_eq_true] at hx
      exact hx.1.1
    exact (Spells.word (by decide)).append
      ((Spells.word hword).append ((Spells.word (by decide)).append p.spells))
  starts := by
    simp [startsPlain, isAsciiSpace]
  opens := rfl
  closes := by decide
  reads hdepth hbody fuel hfuel := by
    obtain ⟨fuel, rfl⟩ := Nat.exists_eq_add_of_le' (Nat.le_trans (Nat.le_add_left 1 _) hfuel)
    simp [readTag, readLoopHead_name hx p hdepth, hbody fuel (by omega)]

theorem readTag_if (fuel depth : Nat) (tokens : List Token) (ps : List Piece) :
    readTag (fuel + 1) depth "if" tokens ps = readBranch fuel depth tokens ps := by
  rw [readTag.eq_def]
  rfl

/-- A condition is read together with its body. -/
theorem readTag_branch (p : Phrase) {depth : Nat} {ps rest : List Piece} {body : List Node}
    (hdepth : depth + 20 ≤ maxDepth) (hbody : Builds depth ps body (some ("endif", [])) rest)
    (fuel : Nat) (hfuel : 4 * ps.length + 3 ≤ fuel) :
    readTag fuel depth "if" p.tokens ps = some (.branch p.expr body [], rest) := by
  obtain ⟨fuel, rfl⟩ := Nat.exists_eq_add_of_le' (Nat.le_trans (Nat.le_add_left 2 _) hfuel)
  have hcondition := p.readLevel_tokens hdepth
  rw [readTag_if]
  simp [readBranch, wholePlainExpr?, hcondition, hbody fuel (by omega)]

/-- A body that is written if a condition holds. -/
def Head.branch (p : Phrase) : Head where
  words := "if" ++ " " ++ p.words
  keyword := "if"
  tokens := p.tokens
  closing := "endif"
  node body := .branch p.expr body []
  spells := (Spells.word (by decide)).append p.spells
  starts := by
    simp [startsPlain, isAsciiSpace]
  opens := rfl
  closes := by decide
  reads := readTag_branch p

/-! ### Layouts -/

/-- A template before it is written: text up to its end, or text and then an output or a
block and what follows it. -/
inductive Layout
  /-- Text up to the end. -/
  | stop (text : String)
  /-- Text and an output. -/
  | output (text : String) (p : Phrase) (rest : Layout)
  /-- Text and a block, with what follows its opening and its closing tag. -/
  | block (text : String) (head : Head) (opened : TagEnd) (body : Layout) (closed : TagEnd)
      (rest : Layout)

namespace Layout

/-- The template. -/
def source : Layout → String
  | stop text => text
  | output text p rest => text ++ (slot p.words ++ rest.source)
  | block text head opened body closed rest =>
    text ++ (tag head.words ++ (opened.text ++ (body.source ++
      (tag head.closing ++ (closed.text ++ rest.source)))))

/-- The text at the start. -/
def start : Layout → String
  | stop text => text
  | output text _ _ => text
  | block text _ _ _ _ _ => text

/-- The text at the end. -/
def finish : Layout → String
  | stop text => text
  | output _ _ rest => rest.finish
  | block _ _ _ _ _ rest => rest.finish

/-- The pieces of the template. -/
def pieces : Layout → List Piece
  | stop text => textPiece text.toList
  | output text p rest => textPiece text.toList ++ .output p.tokens :: rest.pieces
  | block text head _ body _ rest =>
    textPiece text.toList ++ .tag (.word head.keyword :: head.tokens) ::
      (body.pieces ++ .tag [.word head.closing] :: rest.pieces)

/-- Text as a node, unless it is empty. -/
def textNode (text : String) : List Node :=
  if text = "" then [] else [.text text]

/-- The nodes of the template. -/
def nodes : Layout → List Node
  | stop text => textNode text
  | output text p rest => textNode text ++ .output p.expr :: rest.nodes
  | block text head _ body _ rest => textNode text ++ head.node body.nodes :: rest.nodes

/-- How deep the blocks are nested. -/
def height : Layout → Nat
  | stop _ => 0
  | output _ _ rest => rest.height
  | block _ _ _ body _ rest => max (body.height + 1) rest.height

/-- The texts hold no openings, a tag takes no blanks from the text before it, and no
line ends after a tag that stands within one. -/
def Valid : Layout → Prop
  | stop text => isPlain text.toList = true ∧ Tight text.toList
  | output text _ rest => isPlain text.toList = true ∧ rest.Valid
  | block text _ opened body closed rest =>
    isPlain text.toList = true ∧ Tight text.toList ∧
    (opened = .within → lineEnd body.start.toList = []) ∧ body.Valid ∧
    (closed = .within → lineEnd rest.start.toList = []) ∧ rest.Valid

theorem lineEnd_cons_eq_nil {c : Char} {cs : List Char} :
    lineEnd (c :: cs) = [] ↔ isLineEnd c = false := by
  rw [lineEnd.eq_def]
  split <;> simp_all [isLineEnd]

theorem lineEnd_append {cs more : List Char} (hcs : lineEnd cs = []) (hmore : lineEnd more = []) :
    lineEnd (cs ++ more) = [] := by
  cases cs with
  | nil => exact hmore
  | cons c cs => exact lineEnd_cons_eq_nil.2 (lineEnd_cons_eq_nil.1 hcs)

theorem lineEnd_slot (words : String) (cs : List Char) :
    lineEnd ((slot words).toList ++ cs) = [] := by
  simp [slot, lineEnd]

theorem lineEnd_tag (words : String) (cs : List Char) :
    lineEnd ((tag words).toList ++ cs) = [] := by
  simp [tag, lineEnd]

theorem lineEnd_source {l : Layout} {after : List Char} (hstart : lineEnd l.start.toList = [])
    (hafter : lineEnd after = []) : lineEnd (l.source.toList ++ after) = [] := by
  cases l with
  | stop text => exact lineEnd_append hstart hafter
  | output text p rest =>
    simp only [source, String.toList_append, List.append_assoc]
    exact lineEnd_append hstart (lineEnd_slot _ _)
  | block text head opened body closed rest =>
    simp only [source, String.toList_append, List.append_assoc]
    exact lineEnd_append hstart (lineEnd_tag _ _)

/-- The source of a valid layout is read as its pieces. -/
theorem reads_source (l : Layout) (hl : l.Valid) {after : List Char} {ps : List Piece}
    (hline : lineEnd after = []) (hafter : Follows after ps) :
    Reads (l.source.toList ++ after) (l.pieces ++ ps) := by
  induction l generalizing after ps with
  | stop text => exact hafter text.toList hl.1 hl.2
  | output text p rest ih =>
    have hrest := ih hl.2 hline hafter
    have hslot := reads_slot hl.1 p.spells hrest
    simpa [source, pieces] using hslot
  | block text head opened body closed rest ihbody ihrest =>
    obtain ⟨hplain, htight, hopened, hbody, hclosed, hrest⟩ := hl
    have hclosing := head.closes
    simp only [Bool.and_eq_true] at hclosing
    -- from the end to the start, since each part is read in front of what follows it
    have hrestRead := ihrest hrest hline hafter
    have hclose := follows_tag (Spells.word hclosing.1.1) hclosing.1.2 closed
      (fun h => lineEnd_source (hclosed h) hline) hrestRead
    have hbodyRead := ihbody hbody (lineEnd_tag _ _) hclose
    have hopen := follows_tag head.spells head.starts opened
      (fun h => lineEnd_source (hopened h) (lineEnd_tag _ _)) hbodyRead
    have hblock := hopen text.toList hplain htight
    simpa [source, pieces] using hblock

theorem builds_text {depth : Nat} {ps rest : List Piece} {more : List Node}
    {stop : Option (String × List Token)} (text : String) (h : Builds depth ps more stop rest) :
    Builds depth (textPiece text.toList ++ ps) (textNode text ++ more) stop rest := by
  by_cases htext : text = ""
  · simpa [htext, textPiece, textNode] using h
  · intro fuel hfuel
    have hpiece : textPiece text.toList = [.text text] := by simp [textPiece, htext]
    rw [hpiece] at hfuel ⊢
    obtain ⟨fuel, rfl⟩ := Nat.exists_eq_add_one_of_ne_zero (Nat.ne_zero_of_lt hfuel)
    have hps := h fuel (by simp at hfuel; omega)
    simp [readNodes, hps, textNode, htext]

theorem builds_output {depth : Nat} {ps rest : List Piece} {more : List Node}
    {stop : Option (String × List Token)} (p : Phrase) (hdepth : depth + 21 ≤ maxDepth)
    (h : Builds depth ps more stop rest) :
    Builds depth (.output p.tokens :: ps) (.output p.expr :: more) stop rest := by
  intro fuel hfuel
  obtain ⟨fuel, rfl⟩ := Nat.exists_eq_add_one_of_ne_zero (Nat.ne_zero_of_lt hfuel)
  have hps := h fuel (by simp at hfuel; omega)
  simp [readNodes, p.wholeExpr?_tokens hdepth, hps]

theorem builds_closing (depth : Nat) (head : Head) (ps : List Piece) :
    Builds depth (.tag [.word head.closing] :: ps) [] (some (head.closing, [])) ps := by
  intro fuel hfuel
  obtain ⟨fuel, rfl⟩ := Nat.exists_eq_add_one_of_ne_zero (Nat.ne_zero_of_lt hfuel)
  have hclosing := head.closes
  simp only [Bool.and_eq_true] at hclosing
  simp [readNodes, hclosing]

theorem builds_block {depth : Nat} {bodyPieces ps rest : List Piece} {body more : List Node}
    {stop : Option (String × List Token)} (head : Head) (hdepth : depth + 21 ≤ maxDepth)
    (hbody : Builds (depth + 1) (bodyPieces ++ .tag [.word head.closing] :: ps) body
      (some (head.closing, [])) ps)
    (h : Builds depth ps more stop rest) :
    Builds depth (.tag (.word head.keyword :: head.tokens) ::
      (bodyPieces ++ .tag [.word head.closing] :: ps)) (head.node body :: more) stop rest := by
  intro fuel hfuel
  obtain ⟨fuel, rfl⟩ := Nat.exists_eq_add_one_of_ne_zero (Nat.ne_zero_of_lt hfuel)
  have hmax : ¬ maxDepth ≤ depth := by omega
  simp only [List.length_cons, List.length_append] at hfuel
  have htag := head.reads (by omega) hbody fuel (by
    simp only [List.length_cons, List.length_append]; omega)
  have hps := h fuel (by omega)
  simp [readNodes, head.opens, hmax, htag, hps]

/-- The pieces of a layout are read as its nodes. -/
theorem builds_pieces (l : Layout) {depth : Nat} {after rest : List Piece} {more : List Node}
    {stop : Option (String × List Token)} (hdepth : depth + l.height + 21 ≤ maxDepth)
    (hafter : Builds depth after more stop rest) :
    Builds depth (l.pieces ++ after) (l.nodes ++ more) stop rest := by
  induction l generalizing depth after rest more stop with
  | stop text => exact builds_text text hafter
  | output text p tail ih =>
    have htail := ih hdepth hafter
    have houtput := builds_output p (by omega) htail
    simpa [pieces, nodes] using builds_text text houtput
  | block text head opened body closed tail ihbody ihtail =>
    simp only [height] at hdepth
    -- the body ends at the closing tag, one level deeper than the nodes around it
    have htail := ihtail (by omega) hafter
    have hbody := ihbody (by omega) (builds_closing (depth + 1) head (tail.pieces ++ after))
    rw [List.append_nil] at hbody
    have hblock := builds_block head (by omega) hbody htail
    simpa [pieces, nodes] using builds_text text hblock

theorem getLast?_append_slot (cs : List Char) (words : String) :
    (cs ++ (slot words).toList).getLast? = some '}' := by
  rw [slot, String.toList_append, ← List.append_assoc, List.getLast?_append]
  rfl

theorem getLast?_append_tag (cs : List Char) (words : String) :
    (cs ++ (tag words).toList).getLast? = some '}' := by
  rw [tag, String.toList_append, ← List.append_assoc, List.getLast?_append]
  rfl

theorem getLast?_append_ne {cs more : List Char} (hcs : cs.getLast? ≠ some '\r')
    (hmore : more.getLast? ≠ some '\r') : (cs ++ more).getLast? ≠ some '\r' := by
  rw [List.getLast?_append]
  cases hlast : more.getLast? with
  | none => exact hcs
  | some c => rwa [hlast] at hmore

theorem getLast?_source_ne {l : Layout} (hfinish : l.finish.toList.getLast? ≠ some '\r') :
    l.source.toList.getLast? ≠ some '\r' := by
  induction l with
  | stop text => exact hfinish
  | output text p rest ih =>
    simp only [source, String.toList_append]
    rw [← List.append_assoc]
    exact getLast?_append_ne (by rw [getLast?_append_slot]; decide) (ih hfinish)
  | block text head opened body closed rest _ ih =>
    have hclosed : closed.text.toList.getLast? ≠ some '\r' := by cases closed <;> decide
    simp only [source, String.toList_append, ← List.append_assoc]
    refine getLast?_append_ne (getLast?_append_ne ?_ hclosed) (ih hfinish)
    rw [getLast?_append_tag]
    decide

/-- A layout is read back from its source with a line feed after it. -/
theorem parse?_source (l : Layout) (hl : l.Valid) (hheight : l.height + 21 ≤ maxDepth)
    (hfinish : l.finish.toList.getLast? ≠ some '\r') :
    parse? (l.source ++ "\n") = some l.nodes := by
  -- a carriage return at the end would be dropped along with the line feed
  have hlast := getLast?_source_ne hfinish
  have hdrop : dropLastLineEnd (l.source ++ "\n").toList = l.source.toList := by
    simp [dropLastLineEnd, dropLastChar, hlast]
  have hpieces : pieces? (l.source ++ "\n") = some l.pieces := by
    have hreads := l.reads_source hl rfl follows_nil
    simp only [List.append_nil] at hreads
    rw [pieces?, hdrop]
    exact hreads _ _ (Nat.lt_succ_self _)
  have hend : Builds 0 [] [] none [] := by
    intro fuel hfuel
    obtain ⟨fuel, rfl⟩ := Nat.exists_eq_add_one_of_ne_zero (Nat.ne_zero_of_lt hfuel)
    simp [readNodes]
  have hnodes := l.builds_pieces (by omega) hend
  simp only [List.append_nil] at hnodes
  simp [parse?, hpieces, hnodes (4 * l.pieces.length + 4) (by omega)]

end Layout

end TreeSmith.Template
