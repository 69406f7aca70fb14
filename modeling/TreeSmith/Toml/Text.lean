import TreeSmith.Text.Utf8

/-!
# Strings in TOML

Strings between quotes on one line, and between three quotes over several lines;
double quotes admit escapes and single quotes do not.

## Main definitions

* `Toml.readBasic`, `Toml.readLiteral` — on one line.
* `Toml.readLongBasic`, `Toml.readLongLiteral` — over several lines.
* `Toml.readText` — any of the four.
-/

namespace TreeSmith.Toml

/-- A character that may stand in a line. -/
def isLineChar (c : Char) : Bool :=
  c == '\t' || (0x20 ≤ c.toNat && c.toNat ≠ 0x7f)

/-- A character of a key without quotes. -/
def isBareChar (c : Char) : Bool :=
  c.isAlphanum || c == '_' || c == '-'

/-- A blank inside a line. -/
def isSpace (c : Char) : Bool :=
  c == ' ' || c == '\t'

/-- What follows a line break, if one stands here. -/
def afterBreak? : List Char → Option (List Char)
  | '\n' :: cs => some cs
  | '\r' :: '\n' :: cs => some cs
  | _ => none

/-- A character by so many hexadecimal digits. -/
def readHexChar (width : Nat) (cs : List Char) : Option (Char × List Char) := do
  let digits := cs.take width
  if digits.length < width then none
  let code ← digits.foldlM (fun n c => (Text.hexValue? c.toLower).map fun d => n * 16 + d) 0
  if code.isValidChar then return (Char.ofNat code, cs.drop width) else none

/-- The character of an escape, after the backslash. -/
def readEscape : List Char → Option (Char × List Char)
  | 'b' :: cs => some ('\x08', cs)
  | 't' :: cs => some ('\t', cs)
  | 'n' :: cs => some ('\n', cs)
  | 'f' :: cs => some ('\x0c', cs)
  | 'r' :: cs => some ('\r', cs)
  | '"' :: cs => some ('"', cs)
  | '\\' :: cs => some ('\\', cs)
  | 'u' :: cs => readHexChar 4 cs
  | 'U' :: cs => readHexChar 8 cs
  | _ => none

/-- A string in double quotes, after the opening one. -/
def readBasic : Nat → List Char → Option (List Char × List Char)
  | 0, _ => none
  | _ + 1, [] => none
  | fuel + 1, c :: cs =>
    if c = '"' then some ([], cs)
    else if c = '\\' then do
      let (d, rest) ← readEscape cs
      let (text, rest) ← readBasic fuel rest
      return (d :: text, rest)
    else if isLineChar c then (readBasic fuel cs).map fun (text, rest) => (c :: text, rest)
    else none

/-- A string in single quotes, after the opening one. -/
def readLiteral : List Char → Option (List Char × List Char)
  | [] => none
  | c :: cs =>
    if c = '\x27' then some ([], cs)
    else if isLineChar c then (readLiteral cs).map fun (text, rest) => (c :: text, rest)
    else none

/-- Skips blanks and line breaks. -/
def skipBreaks : Nat → List Char → List Char
  | 0, cs => cs
  | fuel + 1, cs =>
    match afterBreak? cs with
    | some rest => skipBreaks fuel rest
    | none =>
      match cs with
      | c :: rest => if isSpace c then skipBreaks fuel rest else cs
      | [] => []

/-- What follows a line break that a backslash hides, if one stands here. -/
def afterHiddenBreak? (cs : List Char) : Option (List Char) :=
  (afterBreak? (cs.dropWhile isSpace)).map fun rest => skipBreaks rest.length rest

/-- The end of a long string at a row of quotes: three of them close it, and two more
may stand before those. -/
def closeLong? (quote : Char) (cs : List Char) : Option (List Char × List Char) :=
  let row := cs.takeWhile (· == quote)
  if row.length < 3 || 5 < row.length then none
  else some (row.drop 3, cs.drop row.length)

/-- A string in three double quotes, after the opening ones. -/
def readLongBasic : Nat → List Char → Option (List Char × List Char)
  | 0, _ => none
  | _ + 1, [] => none
  | fuel + 1, c :: cs =>
    if c = '"' then
      match closeLong? '"' (c :: cs) with
      | some found => some found
      | none =>
        if ['"', '"'].isPrefixOf cs then none
        else (readLongBasic fuel cs).map fun (text, rest) => (c :: text, rest)
    else if c = '\\' then
      match afterHiddenBreak? cs with
      | some rest => readLongBasic fuel rest
      | none => do
        let (d, rest) ← readEscape cs
        let (text, rest) ← readLongBasic fuel rest
        return (d :: text, rest)
    else
      match afterBreak? (c :: cs) with
      | some rest => (readLongBasic fuel rest).map fun (text, rest) => ('\n' :: text, rest)
      | none =>
        if isLineChar c then (readLongBasic fuel cs).map fun (text, rest) => (c :: text, rest)
        else none

/-- A string in three single quotes, after the opening ones. -/
def readLongLiteral : Nat → List Char → Option (List Char × List Char)
  | 0, _ => none
  | _ + 1, [] => none
  | fuel + 1, c :: cs =>
    if c = '\x27' then
      match closeLong? '\x27' (c :: cs) with
      | some found => some found
      | none =>
        if ['\x27', '\x27'].isPrefixOf cs then none
        else (readLongLiteral fuel cs).map fun (text, rest) => (c :: text, rest)
    else
      match afterBreak? (c :: cs) with
      | some rest => (readLongLiteral fuel rest).map fun (text, rest) => ('\n' :: text, rest)
      | none =>
        if isLineChar c then (readLongLiteral fuel cs).map fun (text, rest) => (c :: text, rest)
        else none

/-- The text of a long string without a line break right at its start. -/
def skipFirstBreak (cs : List Char) : List Char :=
  (afterBreak? cs).getD cs

/-- A string on one line. -/
def readShortText : List Char → Option (List Char × List Char)
  | '"' :: cs => readBasic (cs.length + 1) cs
  | '\x27' :: cs => readLiteral cs
  | _ => none

/-- A string. -/
def readText : List Char → Option (List Char × List Char)
  | '"' :: '"' :: '"' :: cs => readLongBasic (cs.length + 1) (skipFirstBreak cs)
  | '\x27' :: '\x27' :: '\x27' :: cs => readLongLiteral (cs.length + 1) (skipFirstBreak cs)
  | cs => readShortText cs

end TreeSmith.Toml
