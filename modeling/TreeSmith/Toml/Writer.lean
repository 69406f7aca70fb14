import TreeSmith.Toml.Text

/-!
# Writing TOML

Keys and strings in the plainest form that can hold them: without quotes, in double
quotes without escapes, in single quotes, in three quotes, and with escapes only if
nothing else will do.

## Main definitions

* `Toml.keyText` — a key.
* `Toml.valueText` — a string.
-/

namespace TreeSmith.Toml

/-- A control character that needs an escape; tabs and line breaks are apart. -/
def needsCode (c : Char) : Bool :=
  (c.toNat ≤ 0x1f && c ≠ '\t' && c ≠ '\n') || c.toNat = 0x7f

/-- The longest row of a character. -/
def longestRow (quote : Char) : (current longest : Nat) → List Char → Nat
  | _, longest, [] => longest
  | current, longest, c :: cs =>
    if c = quote then longestRow quote (current + 1) (max longest (current + 1)) cs
    else longestRow quote 0 longest cs

/-- A code point with four hexadecimal digits. -/
def codeText (c : Char) : List Char :=
  let digits := (Nat.toDigits 16 c.toNat).map Char.toUpper
  '\\' :: 'u' :: List.replicate (4 - digits.length) '0' ++ digits

/-- A character as an escape, if it has one of its own; line breaks stay in a long
string. -/
def escape? (long : Bool) (c : Char) : Option (List Char) :=
  if c = '\x08' then some ['\\', 'b']
  else if c = '\t' then some ['\\', 't']
  else if c = '\n' then if long then none else some ['\\', 'n']
  else if c = '\x0c' then some ['\\', 'f']
  else if c = '\r' then some ['\\', 'r']
  else if c = '\\' then some ['\\', '\\']
  else if needsCode c then some (codeText c)
  else none

/-- Text with escapes for double quotes; a long string has a quote escaped only after
two others. -/
def escaped (long : Bool) : (quotes : Nat) → List Char → List Char
  | _, [] => []
  | quotes, c :: cs =>
    if c = '"' then
      if long && quotes < 2 then c :: escaped long (quotes + 1) cs
      else '\\' :: c :: escaped long 0 cs
    else
      match escape? long c with
      | some code => code ++ escaped long 0 cs
      | none => c :: escaped long 0 cs

/-- A string in double quotes. -/
def basicText (cs : List Char) : List Char :=
  '"' :: escaped false 0 cs ++ ['"']

/-- A string in single quotes. -/
def literalText (cs : List Char) : List Char :=
  '\x27' :: cs ++ ['\x27']

/-- What a long string starts with: a line break if its text has one. -/
def longStart (cs : List Char) : List Char :=
  if cs.contains '\n' then ['\n'] else []

/-- A string in three double quotes. -/
def longBasicText (cs : List Char) : List Char :=
  ['"', '"', '"'] ++ longStart cs ++ escaped true 0 cs ++ ['"', '"', '"']

/-- A string in three single quotes. -/
def longLiteralText (cs : List Char) : List Char :=
  ['\x27', '\x27', '\x27'] ++ longStart cs ++ cs ++ ['\x27', '\x27', '\x27']

/-- A string as a value. -/
def valueChars (cs : List Char) : List Char :=
  let codes := cs.any needsCode
  let backslash := cs.contains '\\'
  let double := longestRow '"' 0 0 cs
  let single := longestRow '\x27' 0 0 cs
  let broken := cs.contains '\n'
  if !codes && !backslash && double = 0 && !broken then basicText cs
  else if !codes && single = 0 && !broken then literalText cs
  else if !codes && !backslash && double ≤ 2 then longBasicText cs
  else if !codes && single ≤ 2 then longLiteralText cs
  else if broken then longBasicText cs
  else basicText cs

/-- A string as a value. -/
def valueText (s : String) : String :=
  String.ofList (valueChars s.toList)

/-- A string as a key. -/
def keyChars (cs : List Char) : List Char :=
  let codes := cs.any needsCode || cs.contains '\n'
  if !cs.isEmpty && cs.all isBareChar then cs
  else if !codes && !cs.contains '\\' && !cs.contains '"' then basicText cs
  else if !codes && !cs.contains '\x27' then literalText cs
  else basicText cs

/-- A string as a key. -/
def keyText (s : String) : String :=
  String.ofList (keyChars s.toList)

end TreeSmith.Toml
