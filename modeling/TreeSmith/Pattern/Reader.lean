import TreeSmith.Decimal.Reading
import TreeSmith.Pattern.Automaton
import TreeSmith.Text.Utf8

/-!
# Reading patterns

Patterns from text: characters, sets in brackets, escapes, groups with or without
flags, alternatives and repetition.

## Main definitions

* `Pattern.readSet` — a set in brackets.
* `Pattern.readBody` — a pattern up to its end or a closing parenthesis.
* `Pattern.parse?` — a whole pattern.
-/

namespace TreeSmith.Pattern

/-! ### Escapes -/

/-- What an escape stands for. -/
inductive Escape
  /-- A character. -/
  | char (c : Char)
  /-- A set of characters. -/
  | set (s : CharSet)
  /-- A condition on the place. -/
  | place (p : Pattern)

/-- The characters with a meaning of their own in patterns. -/
def metaChars : List Char :=
  ['\\', '.', '+', '*', '?', '(', ')', '|', '[', ']', '\x7b', '\x7d', '^', '$', '#', '&', '-', '~']

/-- A character that an escape leaves as it is. -/
def isEscapable (c : Char) : Bool :=
  metaChars.contains c || (c.toNat < 128 && !c.isAlphanum && c != '<' && c != '>')

/-- The value of hexadecimal digits. -/
def readHex? (cs : List Char) : Option Nat :=
  if cs.isEmpty then none
  else cs.foldlM (fun n c => (Text.hexValue? c).map fun d => n * 16 + d) 0

/-- The character of a code point. -/
def charOfCode? (n : Nat) : Option Char :=
  if n.isValidChar then some (Char.ofNat n) else none

/-- A character by its code point: `width` digits, or any number in braces. -/
def readCode (width : Nat) : List Char → Option (Char × List Char)
  | '\x7b' :: cs => do
    let digits := cs.takeWhile (· != '\x7d')
    let code ← readHex? digits
    let c ← charOfCode? code
    match cs.dropWhile (· != '\x7d') with
    | [] => none
    | _ :: rest => return (c, rest)
  | cs => do
    if cs.length < width then none
    let code ← readHex? (cs.take width)
    let c ← charOfCode? code
    return (c, cs.drop width)

/-- What follows a backslash. -/
def readEscape : List Char → Option (Escape × List Char)
  | [] => none
  | c :: cs =>
    match c with
    | 'd' => some (.set .digit, cs)
    | 'D' => some (.set (.complement .digit), cs)
    | 'w' => some (.set .word, cs)
    | 'W' => some (.set (.complement .word), cs)
    | 's' => some (.set .blank, cs)
    | 'S' => some (.set (.complement .blank), cs)
    | 'x' => (readCode 2 cs).map fun (d, rest) => (.char d, rest)
    | 'u' => (readCode 4 cs).map fun (d, rest) => (.char d, rest)
    | 'U' => (readCode 8 cs).map fun (d, rest) => (.char d, rest)
    | 'a' => some (.char '\x07', cs)
    | 'f' => some (.char '\x0c', cs)
    | 't' => some (.char '\t', cs)
    | 'n' => some (.char '\n', cs)
    | 'r' => some (.char '\r', cs)
    | 'v' => some (.char '\x0b', cs)
    | 'A' => some (.place (.start false), cs)
    | 'z' => some (.place (.finish false), cs)
    | 'b' => some (.place .wordEdge, cs)
    | 'B' => some (.place .noWordEdge, cs)
    | '<' => some (.place .wordStart, cs)
    | '>' => some (.place .wordEnd, cs)
    | _ => if isEscapable c then some (.char c, cs) else none

/-! ### Sets in brackets -/

/-- One character or escape inside brackets. -/
def readSetItem : List Char → Option (Escape × List Char)
  | [] => none
  | '\\' :: cs => readEscape cs
  | c :: cs => some (.char c, cs)

/-- The set of an item; a place is no set. -/
def Escape.set? : Escape → Option CharSet
  | .char c => some (.single c)
  | .set s => some s
  | .place _ => none

/-- The character of an item that bounds a range. -/
def Escape.char? : Escape → Option Char
  | .char c => some c
  | _ => none

/-- An item or a range.  A hyphen before a bracket or another hyphen makes no
range. -/
def readRange (cs : List Char) : Option (CharSet × List Char) := do
  let (first, rest) ← readSetItem cs
  match rest with
  | [] => none
  | '-' :: [] => none
  | '-' :: ']' :: _ => return (← first.set?, rest)
  | '-' :: '-' :: _ => return (← first.set?, rest)
  | '-' :: more => do
    let (last, rest) ← readSetItem more
    let low ← first.char?
    let high ← last.char?
    if low ≤ high then return (.range low high, rest) else none
  | _ => return (← first.set?, rest)

/-- A set by its name, as in `[:alpha:]`, after the opening bracket. -/
def readClassName : List Char → Option (CharSet × List Char)
  | ':' :: cs =>
    let (negated, cs) :=
      match cs with
      | '^' :: cs => (true, cs)
      | _ => (false, cs)
    match cs.dropWhile (· != ':') with
    | ':' :: ']' :: rest =>
      (CharSet.ofClassName? (String.ofList (cs.takeWhile (· != ':')))).map fun s =>
        (if negated then .complement s else s, rest)
    | _ => none
  | _ => none

/-- How a part of a set is combined with what stands before it. -/
inductive SetOp
  /-- All of it is kept. -/
  | inter
  /-- It is taken away. -/
  | diff
  /-- What is in both is taken away. -/
  | differ

/-- A combination of two sets. -/
def SetOp.apply : SetOp → CharSet → CharSet → CharSet
  | .inter, a, b => .inter a b
  | .diff, a, b => .diff a b
  | .differ, a, b => .differ a b

/-- A part of a set between operators. -/
structure SetPart where
  /-- The characters. -/
  set : CharSet
  /-- How many items it is made of. -/
  items : Nat
  /-- How deep the deepest item is nested. -/
  depth : Nat

/-- No items. -/
def SetPart.none : SetPart := ⟨.none, 0, 0⟩

/-- A part with one more item. -/
def SetPart.add (part : SetPart) (s : CharSet) (depth : Nat) : SetPart :=
  ⟨.union part.set s, part.items + 1, max part.depth depth⟩

/-- How deep a part is nested, in which several items are a level of their own. -/
def SetPart.nesting (part : SetPart) : Nat :=
  if 1 < part.items then part.depth + 1 else part.depth

/-- The set so far with its last part, and how deep it is nested. -/
def combine : Option (CharSet × Nat × SetOp) → SetPart → CharSet × Nat
  | none, part => (part.set, part.nesting)
  | some (before, depth, op), part => (op.apply before part.set, max depth part.nesting + 1)

/-- What a set starts with: whether it is negated, and hyphens or a bracket that
stand for themselves. -/
def readSetStart (cs : List Char) : Bool × SetPart × List Char :=
  let (negated, cs) :=
    match cs with
    | '^' :: cs => (true, cs)
    | _ => (false, cs)
  let hyphens := cs.takeWhile (· == '-')
  let rest := cs.dropWhile (· == '-')
  if hyphens.isEmpty then
    match rest with
    | ']' :: rest => (negated, ⟨.single ']', 1, 0⟩, rest)
    | _ => (negated, .none, rest)
  else (negated, ⟨.single '-', hyphens.length, 0⟩, rest)

/-- The rest of a set, after its start: the parts combined so far, and the part
that is being read.  The result has the set and how deep it is nested. -/
def readSetRest : Nat → Bool → Option (CharSet × Nat × SetOp) → SetPart → List Char →
    Option (CharSet × Nat × List Char)
  | 0, _, _, _, _ => none
  | fuel + 1, negated, before, part, cs =>
    let (all, depth) := combine before part
    match cs with
    | [] => none
    | ']' :: rest => some (if negated then .complement all else all, depth + 1, rest)
    | '[' :: rest =>
      match readClassName rest with
      | some (s, rest) => readSetRest fuel negated before (part.add s 0) rest
      | none => do
        let (inner, first, rest) := readSetStart rest
        let (s, depth, rest) ← readSetRest fuel inner none first rest
        readSetRest fuel negated before (part.add s depth) rest
    | '&' :: '&' :: rest => readSetRest fuel negated (some (all, depth, .inter)) .none rest
    | '-' :: '-' :: rest => readSetRest fuel negated (some (all, depth, .diff)) .none rest
    | '~' :: '~' :: rest => readSetRest fuel negated (some (all, depth, .differ)) .none rest
    | _ => do
      let (s, rest) ← readRange cs
      readSetRest fuel negated before (part.add s 0) rest

/-- A set in brackets, after the opening bracket, and how deep it is nested. -/
def readSet (cs : List Char) : Option (CharSet × Nat × List Char) :=
  let (negated, first, rest) := readSetStart cs
  readSetRest (cs.length + 1) negated none first rest

/-! ### Repetition -/

/-- A number with blanks around it. -/
def readCount (cs : List Char) : Option (Nat × List Char) :=
  let cs := cs.dropWhile Text.isBlank
  let digits := cs.takeWhile Char.isDigit
  let n := digitsValue digits
  if digits.isEmpty || Nat.pow 2 32 ≤ n then none
  else some (n, (cs.dropWhile Char.isDigit).dropWhile Text.isBlank)

/-- The bounds of a repetition, after the opening brace. -/
def readBounds (cs : List Char) : Option (Nat × Option Nat × List Char) := do
  let (least, rest) ← readCount cs
  match rest with
  | '\x7d' :: rest => return (least, some least, rest)
  | ',' :: '\x7d' :: rest => return (least, none, rest)
  | ',' :: rest => do
    let (most, rest) ← readCount rest
    match rest with
    | '\x7d' :: rest => if least ≤ most then return (least, some most, rest) else none
    | _ => none
  | _ => none

/-- How often an operator repeats, if one stands here. -/
def readOperator : List Char → Option (Option (Nat × Option Nat × List Char))
  | '*' :: cs => some (some (0, none, cs))
  | '+' :: cs => some (some (1, none, cs))
  | '?' :: cs => some (some (0, some 1, cs))
  | '\x7b' :: cs => (readBounds cs).map some
  | _ => some none

/-- Skips the mark of a reluctant repetition, which finds the same texts. -/
def skipReluctant : List Char → List Char
  | '?' :: cs => cs
  | cs => cs

/-! ### Groups -/

/-- The flags in force. -/
structure Flags where
  /-- Letter case is ignored. -/
  ignoreCase : Bool
  /-- The marks of start and end are those of lines. -/
  byLine : Bool
  /-- The dot takes line breaks too. -/
  dotAll : Bool
  deriving DecidableEq, Repr

/-- No flag is in force. -/
def Flags.none : Flags := ⟨false, false, false⟩

/-- The flags with one of them set; flags that change no search are accepted. -/
def Flags.set? (flags : Flags) (c : Char) (on : Bool) : Option Flags :=
  match c with
  | 'i' => some { flags with ignoreCase := on }
  | 'm' => some { flags with byLine := on }
  | 's' => some { flags with dotAll := on }
  | 'U' => some flags
  | 'u' => if on then some flags else .none
  | _ => .none

/-- The flags of a group up to a colon or parenthesis: those in force after them,
and whether any was given. -/
def readFlags (flags : Flags) (on : Bool) (seen : List Char) :
    List Char → Option (Flags × Bool × List Char)
  | [] => none
  | c :: cs =>
    if c == ':' || c == ')' then
      if seen.head? == some '-' then none else some (flags, !seen.isEmpty, c :: cs)
    else if seen.contains c then none
    else if c == '-' then readFlags flags false (c :: seen) cs
    else
      match flags.set? c on with
      | none => none
      | some flags => readFlags flags on (c :: seen) cs

/-- A character that may start the name of a group. -/
def startsGroupName (c : Char) : Bool :=
  c == '_' || (Text.isWord c && !Text.isDecimal c)

/-- A character that may stand in the name of a group. -/
def isGroupNameChar (c : Char) : Bool :=
  Text.isWord c || c == '.' || c == '[' || c == ']'

/-- The name of a group up to its closing angle. -/
def readGroupName (cs : List Char) : Option (List Char × List Char) :=
  let name := cs.takeWhile (· != '>')
  match name, cs.dropWhile (· != '>') with
  | c :: more, _ :: rest =>
    if startsGroupName c && more.all isGroupNameChar then some (name, rest) else none
  | _, _ => none

/-- What opens after a parenthesis. -/
inductive Opening
  /-- A group in which some flags are in force; if it is `kept` it may have a name. -/
  | group (flags : Flags) (kept : Bool) (name : Option (List Char))
  /-- Flags for the rest of the group around. -/
  | setFlags (flags : Flags)

/-- The start of a group with a name, after its opening angle. -/
def readNamedGroup (flags : Flags) (cs : List Char) : Option (Opening × List Char) :=
  (readGroupName cs).map fun (name, rest) => (.group flags true name, rest)

/-- The start of a group, after its parenthesis. -/
def readOpening (flags : Flags) : List Char → Option (Opening × List Char)
  | '?' :: '=' :: _ => none
  | '?' :: '!' :: _ => none
  | '?' :: '<' :: '=' :: _ => none
  | '?' :: '<' :: '!' :: _ => none
  | '?' :: 'P' :: '<' :: cs => readNamedGroup flags cs
  | '?' :: '<' :: cs => readNamedGroup flags cs
  | '?' :: cs =>
    match readFlags flags true [] cs with
    | some (flags, _, ':' :: rest) => some (.group flags false none, rest)
    | some (flags, true, ')' :: rest) => some (.setFlags flags, rest)
    | _ => none
  | cs => some (.group flags true none, cs)

/-! ### Patterns -/

/-- A pattern and how deep it is nested. -/
structure Part where
  /-- The pattern. -/
  pattern : Pattern
  /-- How many patterns with parts of their own lie around its innermost one. -/
  depth : Nat

/-- How deep some patterns are nested, of which several are a level of their own. -/
def nestingOf (depths : List Nat) : Nat :=
  let deepest := depths.foldl max 0
  if 1 < depths.length then deepest + 1 else deepest

/-- The patterns of a row in reverse, one after another.  A change of flags has its
place in the row and is no pattern. -/
def sequenceOf (row : List (Option Part)) : Part :=
  ⟨(row.filterMap id).foldl (fun rest a => .seq a.pattern rest) .empty,
    nestingOf (row.map fun a => (a.map Part.depth).getD 0)⟩

/-- The alternatives read so far in reverse, and one more. -/
def alternativesOf (earlier : List Part) (last : Part) : Part :=
  ⟨earlier.foldl (fun rest a => .either a.pattern rest) last.pattern,
    nestingOf ((last :: earlier).map Part.depth)⟩

/-- The pattern of an escape. -/
def Escape.pattern (flags : Flags) : Escape → Pattern
  | .char c => .oneOf flags.ignoreCase (.single c)
  | .set s => .oneOf flags.ignoreCase s
  | .place p => p

/-- The pattern of a character that is no operator, bracket or escape. -/
def plainChar (flags : Flags) (c : Char) : Pattern :=
  match c with
  | '.' => .oneOf false (if flags.dotAll then .complement .none else .complement (.single '\n'))
  | '^' => .start flags.byLine
  | '$' => .finish flags.byLine
  | _ => .oneOf flags.ignoreCase (.single c)

/-- A pattern up to its end or a closing parenthesis: the alternatives and the row of
patterns read so far, both in reverse, and the names of groups read so far.  A row is
`none` in front when there is nothing to repeat. -/
def readBody : Nat → Flags → List (List Char) → List Part → List (Option Part) →
    List Char → Option (Part × List (List Char) × List Char)
  | 0, _, _, _, _, _ => none
  | fuel + 1, flags, names, earlier, row, cs =>
    let finished := alternativesOf earlier (sequenceOf row)
    match cs with
    | [] => some (finished, names, [])
    | ')' :: _ => some (finished, names, cs)
    | '|' :: rest => readBody fuel flags names (sequenceOf row :: earlier) [] rest
    | '(' :: rest => do
      let (opening, rest) ← readOpening flags rest
      match opening with
      | .setFlags flags => readBody fuel flags names earlier (none :: row) rest
      | .group inner kept name =>
        if name.any names.contains then none
        let (a, names, rest) ← readBody fuel inner (name.toList ++ names) [] [] rest
        match rest with
        | ')' :: rest =>
          let whole := if kept then a.pattern.group else a.pattern
          readBody fuel flags names earlier (some ⟨whole, a.depth + 1⟩ :: row) rest
        | _ => none
    | '[' :: rest => do
      let (s, depth, rest) ← readSet rest
      readBody fuel flags names earlier (some ⟨.oneOf flags.ignoreCase s, depth⟩ :: row) rest
    | '\\' :: rest => do
      let (e, rest) ← readEscape rest
      readBody fuel flags names earlier (some ⟨e.pattern flags, 0⟩ :: row) rest
    | c :: rest => do
      match ← readOperator cs with
      | some (least, most, rest) =>
        match row with
        | some a :: row =>
          let whole := Part.mk (.times least most a.pattern) (a.depth + 1)
          readBody fuel flags names earlier (some whole :: row) (skipReluctant rest)
        | _ => none
      | none => readBody fuel flags names earlier (some ⟨plainChar flags c, 0⟩ :: row) rest

/-- How deep a pattern may be nested. -/
def maxDepth : Nat := 250

/-- The pattern of a text, unless it is malformed, nested too deep or needs too large
an automaton. -/
def parse? (s : String) : Option Pattern :=
  match readBody (s.toList.length + 1) .none [] [] [] s.toList with
  | some (a, _, []) => if a.depth ≤ maxDepth && a.pattern.fits then some a.pattern else none
  | _ => none

end TreeSmith.Pattern
