/-!
# Bytes as text

Text is stored as UTF-8.  Bytes that are no UTF-8 have no text; where a text is
wanted all the same, each longest start of a character that is cut short is
replaced by the replacement character.

## Main definitions

* `bytesOf` — the bytes of a text.
* `textOfBytes?` — the text, when the bytes are UTF-8.
* `lossy`, `lossyText` — the text with replacement characters.
* `bytesOfHex?`, `hexOfBytes` — bytes in hexadecimal.
-/

namespace TreeSmith.Text

/-- The bytes of a text. -/
def bytesOf (s : String) : List UInt8 :=
  s.toList.flatMap String.utf8EncodeChar

/-- The text that the bytes encode, if they encode one. -/
def textOfBytes? (bytes : ByteArray) : Option String :=
  String.fromUTF8? bytes

/-- What follows a leading byte: how many more bytes, and the range of the first
of them.  Bytes that can lead nothing give `none`. -/
def leadingByte (b : Nat) : Option (Nat × Nat × Nat) :=
  if 0xC2 ≤ b && b ≤ 0xDF then some (1, 0x80, 0xBF)
  else if b = 0xE0 then some (2, 0xA0, 0xBF)
  else if b = 0xED then some (2, 0x80, 0x9F)
  else if 0xE1 ≤ b && b ≤ 0xEF then some (2, 0x80, 0xBF)
  else if b = 0xF0 then some (3, 0x90, 0xBF)
  else if 0xF1 ≤ b && b ≤ 0xF3 then some (3, 0x80, 0xBF)
  else if b = 0xF4 then some (3, 0x80, 0x8F)
  else none

/-- A character being read: the bits so far, how many bytes are missing, and the
range of the next one. -/
structure OpenChar where
  /-- The bits read so far. -/
  bits : Nat
  /-- The number of bytes still missing. -/
  missing : Nat
  /-- The least value of the next byte. -/
  least : Nat
  /-- The greatest value of the next byte. -/
  greatest : Nat

/-- The character that stands for bytes without a text. -/
def replacement : Char := Char.ofNat 0xFFFD

/-- A byte where no character is open: a character of one byte, the start of a
longer one, or a byte that is replaced. -/
def startChar (b : Nat) : List Char × Option OpenChar :=
  if b < 0x80 then ([Char.ofNat b], none)
  else
    match leadingByte b with
    | none => ([replacement], none)
    | some (missing, least, greatest) =>
      let mask := if missing = 1 then 0x1F else if missing = 2 then 0x0F else 0x07
      ([], some ⟨b % (mask + 1), missing, least, greatest⟩)

/-- The characters of a byte sequence, with a replacement for each longest start
of a character that is cut short. -/
def lossyChars : Option OpenChar → List UInt8 → List Char
  | none, [] => []
  | some _, [] => [replacement]
  | none, b :: bytes =>
    let (done, pending) := startChar b.toNat
    done ++ lossyChars pending bytes
  | some c, b :: bytes =>
    let n := b.toNat
    if c.least ≤ n && n ≤ c.greatest then
      let bits := c.bits * 64 + n % 64
      if c.missing = 1 then Char.ofNat bits :: lossyChars none bytes
      else lossyChars (some ⟨bits, c.missing - 1, 0x80, 0xBF⟩) bytes
    else
      let (done, pending) := startChar n
      replacement :: done ++ lossyChars pending bytes

/-- The text of a byte sequence, with replacement characters where it is no
UTF-8. -/
def lossy (bytes : List UInt8) : String :=
  String.ofList (lossyChars none bytes)

/-- The text of an array of bytes, with replacement characters. -/
def lossyText (bytes : ByteArray) : String :=
  lossy bytes.toList

/-- The value of a hexadecimal digit. -/
def hexValue? (c : Char) : Option Nat :=
  if '0' ≤ c && c ≤ '9' then some (c.toNat - '0'.toNat)
  else if 'a' ≤ c && c ≤ 'f' then some (c.toNat - 'a'.toNat + 10)
  else if 'A' ≤ c && c ≤ 'F' then some (c.toNat - 'A'.toNat + 10)
  else none

/-- The bytes that pairs of hexadecimal digits stand for. -/
def hexBytes? : List Char → Option (List UInt8)
  | [] => some []
  | [_] => none
  | high :: low :: cs => do
    let h ← hexValue? high
    let l ← hexValue? low
    let rest ← hexBytes? cs
    return UInt8.ofNat (16 * h + l) :: rest

/-- Bytes from their hexadecimal text. -/
def bytesOfHex? (s : String) : Option ByteArray :=
  (hexBytes? s.toList).map fun bytes => ⟨bytes.toArray⟩

/-- A byte as two lower-case hexadecimal digits. -/
def hexOfByte (b : UInt8) : List Char :=
  [Nat.digitChar (b.toNat / 16), Nat.digitChar (b.toNat % 16)]

/-- Bytes as lower-case hexadecimal text. -/
def hexOfBytes (bytes : ByteArray) : String :=
  String.ofList (bytes.toList.flatMap hexOfByte)

end TreeSmith.Text
