/-!
# SHA-256

The hash of a sequence of bytes: the message is padded to whole blocks of sixty-four
bytes, and each block is folded into a state of eight words.

## Main definitions

* `Sha256.padded` — the message with its padding.
* `Sha256.schedule` — the sixty-four words of a block.
* `Sha256.compress` — one block folded into the state.
* `Sha256.digest` — the thirty-two bytes of the hash.
-/

namespace TreeSmith.Sha256

/-- The eight words of the state. -/
structure State where
  /-- The first word. -/
  a : UInt32
  /-- The second word. -/
  b : UInt32
  /-- The third word. -/
  c : UInt32
  /-- The fourth word. -/
  d : UInt32
  /-- The fifth word. -/
  e : UInt32
  /-- The sixth word. -/
  f : UInt32
  /-- The seventh word. -/
  g : UInt32
  /-- The eighth word. -/
  h : UInt32

/-- The state before the first block. -/
def State.initial : State :=
  ⟨0x6A09E667, 0xBB67AE85, 0x3C6EF372, 0xA54FF53A, 0x510E527F, 0x9B05688C, 0x1F83D9AB, 0x5BE0CD19⟩

/-- The constants of the sixty-four rounds. -/
def roundConstants : List UInt32 :=
  [0x428A2F98, 0x71374491, 0xB5C0FBCF, 0xE9B5DBA5, 0x3956C25B, 0x59F111F1, 0x923F82A4, 0xAB1C5ED5,
   0xD807AA98, 0x12835B01, 0x243185BE, 0x550C7DC3, 0x72BE5D74, 0x80DEB1FE, 0x9BDC06A7, 0xC19BF174,
   0xE49B69C1, 0xEFBE4786, 0x0FC19DC6, 0x240CA1CC, 0x2DE92C6F, 0x4A7484AA, 0x5CB0A9DC, 0x76F988DA,
   0x983E5152, 0xA831C66D, 0xB00327C8, 0xBF597FC7, 0xC6E00BF3, 0xD5A79147, 0x06CA6351, 0x14292967,
   0x27B70A85, 0x2E1B2138, 0x4D2C6DFC, 0x53380D13, 0x650A7354, 0x766A0ABB, 0x81C2C92E, 0x92722C85,
   0xA2BFE8A1, 0xA81A664B, 0xC24B8B70, 0xC76C51A3, 0xD192E819, 0xD6990624, 0xF40E3585, 0x106AA070,
   0x19A4C116, 0x1E376C08, 0x2748774C, 0x34B0BCB5, 0x391C0CB3, 0x4ED8AA4A, 0x5B9CCA4F, 0x682E6FF3,
   0x748F82EE, 0x78A5636F, 0x84C87814, 0x8CC70208, 0x90BEFFFA, 0xA4506CEB, 0xBEF9A3F7, 0xC67178F2]

/-- A word turned right by `n` bits, for `n` between 1 and 31. -/
def rotateRight (x n : UInt32) : UInt32 :=
  (x >>> n) ||| (x <<< (32 - n))

/-- The first mixing function of the schedule. -/
def scheduleLow (x : UInt32) : UInt32 :=
  rotateRight x 7 ^^^ rotateRight x 18 ^^^ (x >>> 3)

/-- The second mixing function of the schedule. -/
def scheduleHigh (x : UInt32) : UInt32 :=
  rotateRight x 17 ^^^ rotateRight x 19 ^^^ (x >>> 10)

/-- The words of a block followed by `n` more, each made of four earlier ones. -/
def extend : Nat → Array UInt32 → Array UInt32
  | 0, words => words
  | n + 1, words =>
    let i := words.size
    let word := words.getD (i - 16) 0 + scheduleLow (words.getD (i - 15) 0) +
      words.getD (i - 7) 0 + scheduleHigh (words.getD (i - 2) 0)
    extend n (words.push word)

/-- The big-endian words of a row of bytes. -/
def wordsOfBytes : List UInt8 → List UInt32
  | a :: b :: c :: d :: bytes =>
    ((a.toUInt32 <<< 24) ||| (b.toUInt32 <<< 16) ||| (c.toUInt32 <<< 8) ||| d.toUInt32) ::
      wordsOfBytes bytes
  | _ => []

/-- The sixty-four words of a block. -/
def schedule (block : List UInt8) : List UInt32 :=
  (extend 48 (wordsOfBytes block).toArray).toList

/-- One round with its constant and its word of the schedule. -/
def step (s : State) (constant word : UInt32) : State :=
  let mixed := rotateRight s.e 6 ^^^ rotateRight s.e 11 ^^^ rotateRight s.e 25
  let choice := (s.e &&& s.f) ^^^ (~~~s.e &&& s.g)
  let first := s.h + mixed + choice + constant + word
  let turned := rotateRight s.a 2 ^^^ rotateRight s.a 13 ^^^ rotateRight s.a 22
  let majority := (s.a &&& s.b) ^^^ (s.a &&& s.c) ^^^ (s.b &&& s.c)
  ⟨first + turned + majority, s.a, s.b, s.c, s.d + first, s.e, s.f, s.g⟩

/-- One block folded into the state. -/
def compress (s : State) (block : List UInt8) : State :=
  let t := (roundConstants.zip (schedule block)).foldl (fun s kw => step s kw.1 kw.2) s
  ⟨s.a + t.a, s.b + t.b, s.c + t.c, s.d + t.d, s.e + t.e, s.f + t.f, s.g + t.g, s.h + t.h⟩

/-- The `count` low bytes of a number, the highest first. -/
def bigEndian (count n : Nat) : List UInt8 :=
  (List.range count).reverse.map fun i => UInt8.ofNat (n / Nat.pow 256 i)

/-- The message followed by a one bit, zeros up to eight bytes before the end of a
block, and its length in bits. -/
def padded (message : List UInt8) : List UInt8 :=
  let size := message.length
  message ++ 0x80 :: (List.replicate ((119 - size % 64) % 64) 0 ++ bigEndian 8 (8 * size))

/-- The blocks of a padded message folded into the state, `count` of them. -/
def compressAll : Nat → State → List UInt8 → State
  | 0, s, _ => s
  | count + 1, s, bytes => compressAll count (compress s (bytes.take 64)) (bytes.drop 64)

/-- The thirty-two bytes of the hash. -/
def digest (message : List UInt8) : List UInt8 :=
  let bytes := padded message
  let s := compressAll (bytes.length / 64) .initial bytes
  [s.a, s.b, s.c, s.d, s.e, s.f, s.g, s.h].flatMap fun word => bigEndian 4 word.toNat

end TreeSmith.Sha256
