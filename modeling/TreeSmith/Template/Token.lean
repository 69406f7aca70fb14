import TreeSmith.Decimal.Reading
import TreeSmith.Text.Blank
import TreeSmith.Text.Utf8

/-!
# Template pieces and tokens

A template is text with expressions in double braces, tags in braces with percent
signs, and comments.  A tag that stands alone on a line leaves no trace of it: the
blanks before a tag or comment at the start of a line and the line feed after it
are left out.  A hyphen at a brace cuts off all white space on that side, and a plus
sign keeps it.

## Main definitions

* `Mark`, `Token` — what an expression is written with.
* `Piece` — text, an expression or a tag.
* `readTokens` — the tokens of an expression or tag, up to its end.
* `pieces?` — the pieces of a whole template.
-/

namespace TreeSmith.Template

/-- An operator or punctuation mark. -/
inductive Mark
  | plus | minus | star | slash | doubleSlash | percent | doubleStar | tilde
  | equal | notEqual | less | lessEqual | greater | greaterEqual | assign
  | bar | dot | comma | colon
  | openParen | closeParen | openBracket | closeBracket | openBrace | closeBrace
  deriving DecidableEq, Repr

/-- A token of an expression. -/
inductive Token
  /-- A name or word. -/
  | word (s : String)
  /-- A text between quotes. -/
  | text (s : String)
  /-- An integer of at most 128 bits. -/
  | int (n : Nat)
  /-- The decimal `digits · 10 ^ exponent`. -/
  | decimal (digits : Nat) (exponent : Int)
  /-- An operator or punctuation mark. -/
  | mark (m : Mark)
  deriving DecidableEq, Repr

/-- A piece of a template. -/
inductive Piece
  /-- Text as it is. -/
  | text (s : String)
  /-- An expression whose value is written. -/
  | output (tokens : List Token)
  /-- A tag. -/
  | tag (tokens : List Token)
  deriving DecidableEq, Repr

/-- What happens to the white space on one side of a brace. -/
inductive Spacing
  /-- What stands alone on a line leaves no trace of it. -/
  | usual
  /-- All white space is cut off. -/
  | cut
  /-- All white space stays. -/
  | keep
  deriving DecidableEq, Repr

/-! ### Tokens -/

/-- The character may start a name. -/
def isWordStart (c : Char) : Bool := c.isAlpha || c = '_'

/-- The character may stand inside a name. -/
def isWordPart (c : Char) : Bool := c.isAlphanum || c = '_'

/-- A text up to its closing quote as it is written, and what follows the quote.  A
backslash takes the character after it along. -/
def splitQuoted (quote : Char) : List Char → Option (List Char × List Char)
  | [] => none
  | ['\\'] => none
  | '\\' :: c :: cs =>
    (splitQuoted quote cs).map fun (text, rest) => ('\\' :: c :: text, rest)
  | c :: cs =>
    if c = quote then some ([], cs)
    else (splitQuoted quote cs).map fun (text, rest) => (c :: text, rest)

/-- What a part of a quoted text stands for. -/
inductive QuotedPart
  /-- A character. -/
  | char (c : Char)
  /-- A unit of sixteen bits, of which a character outside the basic plane takes two. -/
  | unit (n : Nat)
  deriving DecidableEq, Repr

/-- The character that a one-letter escape stands for. -/
def escapeLetter? (c : Char) : Option Char :=
  if c = '"' || c = '\x27' || c = '\\' || c = '/' then some c
  else if c = 'n' then some '\n'
  else if c = 'r' then some '\r'
  else if c = 't' then some '\t'
  else if c = 'b' then some (Char.ofNat 8)
  else if c = 'f' then some (Char.ofNat 12)
  else none

/-- The value of hexadecimal digits, with an optional plus sign. -/
def hexNumber? (cs : List Char) : Option Nat :=
  let digits :=
    match cs with
    | '+' :: more => more
    | _ => cs
  if digits = [] then none
  else digits.foldlM (fun n c => (Text.hexValue? c).map fun d => 16 * n + d) 0

/-- The character is an octal digit. -/
def isOctal (c : Char) : Bool := '0' ≤ c && c ≤ '7'

/-- The parts of a quoted text.  Escapes are one letter, `u` and four or `x` and two
hexadecimal digits, or up to three octal digits for a number below 256; a backslash
before any other character stands for itself. -/
def quotedParts : Nat → List Char → Option (List QuotedPart)
  | 0, _ => none
  | _, [] => some []
  | fuel + 1, '\\' :: 'u' :: cs => do
    if cs.length < 4 then none
    let n ← hexNumber? (cs.take 4)
    let parts ← quotedParts fuel (cs.drop 4)
    return .unit n :: parts
  | fuel + 1, '\\' :: 'x' :: cs => do
    if cs.length < 2 then none
    let n ← hexNumber? (cs.take 2)
    let parts ← quotedParts fuel (cs.drop 2)
    return .char (Char.ofNat n) :: parts
  | fuel + 1, '\\' :: c :: cs => do
    if isOctal c then
      let digits := c :: (cs.take 2).takeWhile isOctal
      let n := digits.foldl (fun n d => 8 * n + (d.toNat - '0'.toNat)) 0
      if 256 ≤ n then none
      let parts ← quotedParts fuel (cs.drop (digits.length - 1))
      return .char (Char.ofNat n) :: parts
    else
      let parts ← quotedParts fuel cs
      match escapeLetter? c with
      | some d => return .char d :: parts
      | none => return .char '\\' :: .char c :: parts
  | fuel + 1, c :: cs => (quotedParts fuel cs).map (.char c :: ·)

/-- The unit is one of the two for a character outside the basic plane. -/
def isHalfUnit (n : Nat) : Bool := 0xD800 ≤ n && n ≤ 0xDFFF

/-- The characters of parts; units for half a character must come in pairs, the upper
one first. -/
def joinParts : List QuotedPart → Option (List Char)
  | [] => some []
  | .char c :: parts => (joinParts parts).map (c :: ·)
  | .unit n :: parts =>
    if !isHalfUnit n then (joinParts parts).map (Char.ofNat n :: ·)
    else
      match parts with
      | .unit m :: parts =>
        if n ≤ 0xDBFF && 0xDC00 ≤ m && m ≤ 0xDFFF then
          (joinParts parts).map (Char.ofNat (0x10000 + (n - 0xD800) * 0x400 + (m - 0xDC00)) :: ·)
        else none
      | _ => none

/-- A text at its opening quote, and what follows its closing quote. -/
def readQuoted (quote : Char) (cs : List Char) : Option (String × List Char) := do
  let (written, rest) ← splitQuoted quote cs
  let parts ← quotedParts (written.length + 1) written
  let text ← joinParts parts
  return (String.ofList text, rest)

/-- How far a number has been read. -/
inductive NumberPart
  /-- In the digits of a number in a base that was named. -/
  | based (base : Nat)
  /-- Before the point. -/
  | whole
  /-- After the point. -/
  | fraction
  /-- At the mark of the exponent. -/
  | mark
  /-- In the exponent. -/
  | exponent
  deriving DecidableEq, Repr

/-- How far a number has been read after one more character, if that belongs to it. -/
def NumberPart.next? (part : NumberPart) (c : Char) : Option NumberPart :=
  match part with
  | .based base =>
    if c.isDigit || c = '_' || (base = 16 && (Text.hexValue? c).isSome) then part else none
  | .whole =>
    if c.isDigit || c = '_' then part
    else if c = '.' then some .fraction
    else if c = 'e' || c = 'E' then some .mark
    else none
  | .fraction =>
    if c.isDigit || c = '_' then part
    else if c = 'e' || c = 'E' then some .mark
    else none
  | .mark =>
    if c = '_' then part
    else if c.isDigit || c = '+' || c = '-' then some .exponent
    else none
  | .exponent => if c.isDigit || c = '_' then part else none

/-- The characters of a number, how far they lead, and what follows them. -/
def spanNumber (part : NumberPart) : List Char → List Char × NumberPart × List Char
  | [] => ([], part, [])
  | c :: cs =>
    match part.next? c with
    | none => ([], part, c :: cs)
    | some part =>
      let (number, last, rest) := spanNumber part cs
      (c :: number, last, rest)

/-- The base that the start of a number names, and what follows the name. -/
def numberBase : List Char → NumberPart × List Char
  | '0' :: c :: cs =>
    if c = 'b' || c = 'B' then (.based 2, cs)
    else if c = 'o' || c = 'O' then (.based 8, cs)
    else if c = 'x' || c = 'X' then (.based 16, cs)
    else (.whole, '0' :: c :: cs)
  | cs => (.whole, cs)

/-- The integer of digits in a base, if 128 bits hold it. -/
def integer? (base : Nat) (digits : List Char) : Option Nat := do
  if digits = [] then none
  let n ← digits.foldlM (fun n c => do
    let d ← Text.hexValue? c
    if d < base then some (base * n + d) else none) 0
  if n < 340282366920938463463374607431768211456 then some n else none

/-- A number at a digit: an integer, also in base 2, 8 or 16, or a decimal with a
point or an exponent.  Underscores count for nothing but may not end it. -/
def readNumber (cs : List Char) : Option (Token × List Char) := do
  let (part, cs) := numberBase cs
  let (number, part, rest) := spanNumber part cs
  if number.getLast? = some '_' then none
  let digits := number.filter (· ≠ '_')
  match part with
  | .based base => return (.int (← integer? base digits), rest)
  | .whole => return (.int (← integer? 10 digits), rest)
  | _ =>
    let d ← readDecimal? digits
    return (.decimal d.digits d.exponent, rest)

/-- The mark at the front, the longest one. -/
def readMark : List Char → Option (Mark × List Char)
  | '/' :: '/' :: cs => some (.doubleSlash, cs)
  | '*' :: '*' :: cs => some (.doubleStar, cs)
  | '=' :: '=' :: cs => some (.equal, cs)
  | '!' :: '=' :: cs => some (.notEqual, cs)
  | '<' :: '=' :: cs => some (.lessEqual, cs)
  | '>' :: '=' :: cs => some (.greaterEqual, cs)
  | '+' :: cs => some (.plus, cs)
  | '-' :: cs => some (.minus, cs)
  | '*' :: cs => some (.star, cs)
  | '/' :: cs => some (.slash, cs)
  | '%' :: cs => some (.percent, cs)
  | '~' :: cs => some (.tilde, cs)
  | '<' :: cs => some (.less, cs)
  | '>' :: cs => some (.greater, cs)
  | '=' :: cs => some (.assign, cs)
  | '|' :: cs => some (.bar, cs)
  | '.' :: cs => some (.dot, cs)
  | ',' :: cs => some (.comma, cs)
  | ':' :: cs => some (.colon, cs)
  | '(' :: cs => some (.openParen, cs)
  | ')' :: cs => some (.closeParen, cs)
  | '[' :: cs => some (.openBracket, cs)
  | ']' :: cs => some (.closeBracket, cs)
  | '{' :: cs => some (.openBrace, cs)
  | '}' :: cs => some (.closeBrace, cs)
  | _ => none

/-- How many brackets are open after a mark. -/
def bracketDepth (depth : Nat) : Mark → Nat
  | .openParen | .openBracket | .openBrace => depth + 1
  | .closeParen | .closeBracket | .closeBrace => depth - 1
  | _ => depth

/-- The token at the front, which is no white space. -/
def readToken (cs : List Char) : Option (Token × List Char) :=
  match cs with
  | [] => none
  | c :: more =>
    if isWordStart c then
      some (.word (String.ofList (cs.takeWhile isWordPart)), cs.dropWhile isWordPart)
    else if c.isDigit then readNumber cs
    else if c = '"' || c = '\x27' then
      (readQuoted c more).map fun (text, rest) => (.text text, rest)
    else (readMark cs).map fun (m, rest) => (.mark m, rest)

/-- The end of a tag or expression at the front: an optional hyphen, or for a tag also
a plus sign, and the closing characters. -/
def readEnd (closing : Char) : List Char → Option (Spacing × List Char)
  | '-' :: a :: '}' :: cs => if a = closing then some (.cut, cs) else none
  | '+' :: '%' :: '}' :: cs => if closing = '%' then some (.keep, cs) else none
  | a :: '}' :: cs => if a = closing then some (.usual, cs) else none
  | _ => none

/-- The white space of ASCII. -/
def isAsciiSpace (c : Char) : Bool :=
  c = ' ' || c = '\t' || c = '\n' || c = '\r' || c.toNat = 12

/-- The tokens up to the end of a tag or expression, the spacing after it, and the
rest.  The end does not count inside brackets. -/
def readTokens (closing : Char) : Nat → Nat → List Char →
    Option (List Token × Spacing × List Char)
  | 0, _, _ => none
  | fuel + 1, depth, cs =>
    let cs := cs.dropWhile isAsciiSpace
    match if depth = 0 then readEnd closing cs else none with
    | some (spacing, rest) => some ([], spacing, rest)
    | none => do
      let (token, rest) ← readToken cs
      let depth :=
        match token with
        | .mark m => bracketDepth depth m
        | _ => depth
      let (tokens, spacing, rest) ← readTokens closing fuel depth rest
      return (token :: tokens, spacing, rest)

/-! ### Pieces -/

/-- What follows an opening brace. -/
inductive Opening
  /-- An expression. -/
  | output
  /-- A tag. -/
  | tag
  /-- A comment. -/
  | comment
  deriving DecidableEq, Repr

/-- The text up to the next opening, the opening, and what follows it. -/
def splitAtOpening : List Char → List Char × Option (Opening × List Char)
  | [] => ([], none)
  | '{' :: '{' :: cs => ([], some (.output, cs))
  | '{' :: '%' :: cs => ([], some (.tag, cs))
  | '{' :: '#' :: cs => ([], some (.comment, cs))
  | c :: cs =>
    let (text, found) := splitAtOpening cs
    (c :: text, found)

/-- The spacing that a sign after an opening asks for. -/
def readSpacing : List Char → Spacing × List Char
  | '-' :: cs => (.cut, cs)
  | '+' :: cs => (.keep, cs)
  | cs => (.usual, cs)

/-- The character ends a line. -/
def isLineEnd (c : Char) : Bool := c = '\n' || c = '\r'

/-- Whether the line holds only blanks after further characters, given whether it
did before them. -/
def lineIsBlank (before : Bool) (cs : List Char) : Bool :=
  cs.foldl (fun blank c => isLineEnd c || (blank && Text.isBlank c)) before

/-- A text without the blanks of its last line, when that line holds nothing else. -/
def cutLastBlanks (cs : List Char) : List Char :=
  let kept := (cs.reverse.dropWhile fun c => Text.isBlank c && !isLineEnd c).reverse
  if kept.getLast?.all isLineEnd then kept else cs

/-- The text in front of an opening, by the spacing of the opening; `blank` says
that the line holds only blanks so far. -/
def spaceBefore (spacing : Spacing) (opening : Opening) (blank : Bool) (cs : List Char) :
    List Char :=
  match spacing with
  | .cut => Text.trimEnd cs
  | .keep => cs
  | .usual =>
    if opening ≠ .output && blank then
      (cs.reverse.dropWhile fun c => Text.isBlank c && !isLineEnd c).reverse
    else cs

/-- The characters that a line end after a tag takes up. -/
def lineEnd : List Char → List Char
  | '\r' :: '\n' :: _ => ['\r', '\n']
  | '\r' :: _ => ['\r']
  | '\n' :: _ => ['\n']
  | _ => []

/-- The white space that the end of a piece cuts off in what follows. -/
def spaceAfter (spacing : Spacing) (opening : Opening) (cs : List Char) : List Char :=
  match spacing with
  | .cut => cs.takeWhile Text.isBlank
  | .keep => []
  | .usual => if opening = .output then [] else lineEnd cs

/-- The characters of a comment up to its end, the spacing after it, and the rest. -/
def skipComment : List Char → Option (Spacing × List Char)
  | '-' :: '#' :: '}' :: cs => some (.cut, cs)
  | '+' :: '#' :: '}' :: cs => some (.keep, cs)
  | '#' :: '}' :: cs => some (.usual, cs)
  | _ :: cs => skipComment cs
  | [] => none

/-- A tag of one given word, after its opening and sign: the spacing after it and
the rest. -/
def readWordTag (word : List Char) (cs : List Char) : Option (Spacing × List Char) :=
  let cs := cs.dropWhile isAsciiSpace
  if word.isPrefixOf cs then readEnd '%' ((cs.drop word.length).dropWhile isAsciiSpace) else none

/-- The text up to the tag that ends verbatim text: the text, the spacing before and
after that tag, and the rest. -/
def readVerbatim : List Char → Option (List Char × Spacing × Spacing × List Char)
  | [] => none
  | c :: cs =>
    let ended :=
      match c, cs with
      | '{', '%' :: more =>
        let (before, more) := readSpacing more
        (readWordTag "endraw".toList more).map fun (after, rest) => (before, after, rest)
      | _, _ => none
    match ended with
    | some (before, after, rest) => some ([], before, after, rest)
    | none =>
      (readVerbatim cs).map fun (text, before, after, rest) => (c :: text, before, after, rest)

/-- Verbatim text without the white space that the tags around it cut off. -/
def trimVerbatim (start stop : Spacing) (cs : List Char) : List Char :=
  let front :=
    match start with
    | .cut => Text.trimStart cs
    | .keep => cs
    | .usual => cs.drop (lineEnd cs).length
  match stop with
  | .cut => Text.trimEnd front
  | .keep => front
  | .usual => cutLastBlanks front

/-- Text as a piece, unless it is empty. -/
def textPiece (cs : List Char) : List Piece :=
  if cs = [] then [] else [.text (String.ofList cs)]

/-- The piece after an opening, the spacing after it, and the rest; a comment is no
piece, and a tag for verbatim text is a piece of text. -/
def readPiece (opening : Opening) (cs : List Char) : Option (List Piece × Spacing × List Char) :=
  match opening with
  | .comment => (skipComment cs).map fun (after, rest) => ([], after, rest)
  | .output =>
    (readTokens '}' (cs.length + 1) 0 cs).map fun (tokens, after, rest) =>
      ([.output tokens], after, rest)
  | .tag =>
    match readWordTag "raw".toList cs with
    | some (start, body) =>
      (readVerbatim body).map fun (text, stop, after, rest) =>
        (textPiece (trimVerbatim start stop text), after, rest)
    | none =>
      (readTokens '%' (cs.length + 1) 0 cs).map fun (tokens, after, rest) =>
        ([.tag tokens], after, rest)

/-- The pieces of a template from a place on; `blank` says that the line holds only
blanks up to there. -/
def readPieces : Nat → Bool → List Char → Option (List Piece)
  | 0, _, _ => none
  | fuel + 1, blank, cs =>
    match splitAtOpening cs with
    | (text, none) => some (textPiece text)
    | (text, some (opening, more)) => do
      let (before, more) := readSpacing more
      let kept := spaceBefore before opening (lineIsBlank blank text) text
      let (piece, after, rest) ← readPiece opening more
      let cut := spaceAfter after opening rest
      let pieces ← readPieces fuel (lineIsBlank false cut) (rest.drop cut.length)
      return textPiece kept ++ piece ++ pieces

/-- A text without one given character at its end. -/
def dropLastChar (last : Char) (cs : List Char) : List Char :=
  if cs.getLast? = some last then cs.dropLast else cs

/-- A template without one line feed at its end, and then without one carriage
return. -/
def dropLastLineEnd (cs : List Char) : List Char :=
  dropLastChar '\r' (dropLastChar '\n' cs)

/-- The pieces of a template, unless a piece is not ended or holds a stray
character. -/
def pieces? (source : String) : Option (List Piece) :=
  let cs := dropLastLineEnd source.toList
  readPieces (cs.length + 1) true cs

end TreeSmith.Template
