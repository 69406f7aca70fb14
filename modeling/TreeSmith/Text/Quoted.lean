import TreeSmith.Text.Unprintable

/-!
# Quoted text

A text between double quotes in which every character can be seen.

## Main definitions

* `hexDigits` — a number in lower-case hexadecimal.
* `escapeChar` — how one character is written between the quotes.
* `quoted` — the whole text.
-/

namespace TreeSmith.Text

/-- A number in lower-case hexadecimal, without leading zeros. -/
def hexDigits (n : Nat) : List Char :=
  Nat.toDigits 16 n

/-- A character between quotes: short escapes for the quote, the backslash and
the common controls, the code point for what has no glyph, itself otherwise. -/
def escapeChar (c : Char) : List Char :=
  if c = '"' then ['\\', '"']
  else if c = '\\' then ['\\', '\\']
  else if c = '\n' then ['\\', 'n']
  else if c = '\r' then ['\\', 'r']
  else if c = '\t' then ['\\', 't']
  else if c.toNat = 0 then ['\\', '0']
  else if isPrintable c then [c]
  else ['\\', 'u', '\x7b'] ++ hexDigits c.toNat ++ ['\x7d']

/-- A text between double quotes. -/
def quoted (s : String) : String :=
  String.ofList ('"' :: s.toList.flatMap escapeChar ++ ['"'])

end TreeSmith.Text
