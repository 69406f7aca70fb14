import TreeSmith.Toml.Table
import TreeSmith.Toml.Text

/-!
# Reading TOML

A document is read line by line: headers of tables, and keys with their values.

## Main definitions

* `Toml.readKey` — a key, perhaps with dots.
* `Toml.readValue` — a value.
* `Toml.Line`, `Toml.readLines` — the lines of a document.
* `Toml.parse?` — a document.
-/

namespace TreeSmith.Toml

/-! ### Keys -/

/-- Skips blanks inside a line. -/
def skipSpace (cs : List Char) : List Char :=
  cs.dropWhile isSpace

/-- A key without dots. -/
def readSimpleKey (cs : List Char) : Option (String × List Char) :=
  match readShortText cs with
  | some (text, rest) => some (String.ofList text, rest)
  | none =>
    let bare := cs.takeWhile isBareChar
    if bare.isEmpty then none else some (String.ofList bare, cs.dropWhile isBareChar)

/-- Values may be nested, and keys may have parts, fewer than so many times. -/
def maxDepth : Nat := 80

/-- A key of at most so many parts, with the blanks around it and what follows its
dots. -/
def readKeyParts : Nat → List Char → Option (List String × List Char)
  | 0, _ => none
  | parts + 1, cs => do
    let (key, rest) ← readSimpleKey (skipSpace cs)
    match skipSpace rest with
    | '.' :: more => (readKeyParts parts more).map fun (keys, rest) => (key :: keys, rest)
    | rest => return ([key], rest)

/-- A key with the blanks around it and what follows its dots. -/
def readKey (cs : List Char) : Option (List String × List Char) :=
  readKeyParts (maxDepth - 1) cs

/-! ### Values -/

/-- Skips a comment. -/
def skipComment : List Char → List Char
  | '#' :: cs => cs.dropWhile isLineChar
  | cs => cs

/-- Skips blanks, line breaks and comments. -/
def skipFiller : Nat → List Char → List Char
  | 0, cs => cs
  | fuel + 1, cs =>
    match afterBreak? cs with
    | some rest => skipFiller fuel rest
    | none =>
      match cs with
      | '#' :: _ => skipFiller fuel (skipComment cs)
      | c :: rest => if isSpace c then skipFiller fuel rest else cs
      | [] => []

mutual

/-- A value, inside so many others. -/
def readValue : Nat → Nat → List Char → Option (Value × List Char)
  | 0, _, _ => none
  | fuel + 1, depth, cs =>
    match cs with
    | '[' :: rest =>
      if maxDepth ≤ depth + 1 then none
      else (readItems fuel (depth + 1) rest).map fun (items, rest) => (.array items, rest)
    | '\x7b' :: rest =>
      if maxDepth ≤ depth + 1 then none
      else
        match skipSpace rest with
        | '\x7d' :: rest => some (.table [], rest)
        | rest => (readMembers fuel (depth + 1) [] rest).map fun (entries, rest) =>
            (.table (finishEntries entries), rest)
    | '"' :: _ => (readText cs).map fun (text, rest) => (.text (String.ofList text), rest)
    | '\x27' :: _ => (readText cs).map fun (text, rest) => (.text (String.ofList text), rest)
    | _ => (readScalar cs).map fun (s, rest) => (.scalar s, rest)

/-- The rest of an array, after its bracket or a comma. -/
def readItems : Nat → Nat → List Char → Option (List Value × List Char)
  | 0, _, _ => none
  | fuel + 1, depth, cs =>
    match skipFiller cs.length cs with
    | ']' :: rest => some ([], rest)
    | cs => do
      let (v, rest) ← readValue fuel depth cs
      match skipFiller rest.length rest with
      | ',' :: rest => do
        let (items, rest) ← readItems fuel depth rest
        return (v :: items, rest)
      | ']' :: rest => return ([v], rest)
      | _ => none

/-- The rest of a table on one line, after its brace or a comma. -/
def readMembers : Nat → Nat → Entries → List Char → Option (Entries × List Char)
  | 0, _, _, _ => none
  | fuel + 1, depth, entries, cs => do
    let (key, rest) ← readKey cs
    let rest ← skipChar '=' rest
    let (v, rest) ← readValue fuel depth (skipSpace rest)
    let entries ← putDotted v key entries
    match skipSpace rest with
    | ',' :: rest => readMembers fuel depth entries rest
    | '\x7d' :: rest => return (entries, rest)
    | _ => none

end

/-! ### Documents -/

/-- What a line of a document says. -/
inductive Line
  /-- A value under a key. -/
  | pair (key : List String) (v : Value)
  /-- The header of a table. -/
  | header (key : List String)
  /-- The header of one more table of a list. -/
  | row (key : List String)

/-- The end of a line: blanks, a comment, and a line break or the end of the text. -/
def endLine (cs : List Char) : Option (List Char) :=
  match skipComment (skipSpace cs) with
  | [] => some []
  | rest => afterBreak? rest

/-- A line that says something, up to what follows it on the line. -/
def readLine (cs : List Char) : Option (Line × List Char) :=
  match cs with
  | '[' :: '[' :: rest => do
    let (key, rest) ← readKey rest
    let rest ← skipChar ']' rest
    let rest ← skipChar ']' rest
    return (.row key, rest)
  | '[' :: rest => do
    let (key, rest) ← readKey rest
    let rest ← skipChar ']' rest
    return (.header key, rest)
  | _ => do
    let (key, rest) ← readKey cs
    let rest ← skipChar '=' rest
    let (v, rest) ← readValue (rest.length + 1) 0 (skipSpace rest)
    return (.pair key v, rest)

/-- The lines of a document that say something. -/
def readLines : Nat → List Char → Option (List Line)
  | 0, _ => none
  | fuel + 1, cs =>
    match skipFiller cs.length cs with
    | [] => some []
    | cs => do
      let (line, rest) ← readLine cs
      let rest ← endLine rest
      let lines ← readLines fuel rest
      return line :: lines

/-- The table under construction, with the key of the table that is open. -/
structure Draft where
  /-- The whole table. -/
  root : Entries
  /-- The key of the open table. -/
  current : List String

/-- What a line does to a document. -/
def Draft.add (d : Draft) : Line → Option Draft
  | .pair key v => (changeTable (putDotted v key) d.current d.root).map fun root => { d with root }
  | .header key => do
    let last ← key.getLast?
    let root ← changeTable (openTable last) key.dropLast d.root
    return ⟨root, key⟩
  | .row key => do
    let last ← key.getLast?
    let root ← changeTable (openRow last) key.dropLast d.root
    return ⟨root, key⟩

/-- The document of some lines. -/
def build (lines : List Line) : Option (List (String × Value)) := do
  let draft ← lines.foldlM Draft.add ⟨[], []⟩
  return finishEntries draft.root

/-- The text without a byte order mark at its start. -/
def skipMark : List Char → List Char
  | c :: cs => if c.toNat = 0xFEFF then cs else c :: cs
  | [] => []

/-- The table that a text says. -/
def parse? (source : String) : Option (List (String × Value)) :=
  let cs := skipMark source.toList
  (readLines (cs.length + 1) cs).bind build

end TreeSmith.Toml
