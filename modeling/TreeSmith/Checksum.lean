import TreeSmith.Sha256
import TreeSmith.Text.Utf8

/-!
# Checksums

The SHA-256 of a text in lower-case hexadecimal identifies what an artifact holds.
A checksum that was stored elsewhere is any text; it verifies a content exactly
when it is the checksum of that content.

## Main definitions

* `Checksum.ofBytes`, `Checksum.of` — the checksum of bytes and of a text.
* `Checksum.verify` — whether a text has this checksum.
* `Checksum.short?`, `Checksum.short` — the first twelve bytes.
-/

namespace TreeSmith

/-- A checksum by its text. -/
structure Checksum where
  /-- The text, sixty-four hexadecimal digits when it was computed here. -/
  text : String
  deriving DecidableEq, Repr

namespace Checksum

/-- The checksum of a sequence of bytes. -/
def ofBytes (bytes : ByteArray) : Checksum :=
  ⟨String.ofList ((Sha256.digest bytes.toList).flatMap Text.hexOfByte)⟩

/-- The checksum of a text. -/
def of (content : String) : Checksum :=
  ofBytes content.toUTF8

/-- The text has this checksum. -/
def verify (c : Checksum) (content : String) : Bool :=
  of content == c

/-- The characters at the front that make up exactly `count` bytes, or all of them
when there are no more bytes; `none` when a character lies across the cut. -/
def takeBytes : Nat → List Char → Option (List Char)
  | _, [] => some []
  | count, c :: cs =>
    if count = 0 then some []
    else if count < c.utf8Size then none
    else (takeBytes (count - c.utf8Size) cs).map (c :: ·)

/-- The first twelve bytes, if no character lies across the cut. -/
def short? (c : Checksum) : Option String :=
  (takeBytes 12 c.text.toList).map String.ofList

/-- The abbreviation of a checksum in reports. -/
def short (c : Checksum) : String :=
  c.short?.getD c.text

end Checksum

end TreeSmith
