import DenoBridge.Text.Utf8

/-! # SHA-256

    The digest of a byte sequence: the padded message is read in blocks of
    sixteen words, each block is stretched to sixty-four words, and as many
    rounds mix them into a state of eight words.  Main statement: the digest
    is written with sixty-four digits (`length_hex`).
-/

namespace DenoBridge.Sha256

/-! ## Section 1: The state -/

/-- The eight words that the rounds mix. -/
structure Words where
  a : UInt32
  b : UInt32
  c : UInt32
  d : UInt32
  e : UInt32
  f : UInt32
  g : UInt32
  h : UInt32
  deriving Repr, DecidableEq

/-- The state before the first block. -/
def start : Words :=
  ⟨0x6a09e667, 0xbb67ae85, 0x3c6ef372, 0xa54ff53a, 0x510e527f, 0x9b05688c, 0x1f83d9ab, 0x5be0cd19⟩

/-- Both states added word by word. -/
def Words.add (x y : Words) : Words :=
  ⟨x.a + y.a, x.b + y.b, x.c + y.c, x.d + y.d, x.e + y.e, x.f + y.f, x.g + y.g, x.h + y.h⟩

/-- The words in order. -/
def Words.toList (x : Words) : List UInt32 :=
  [x.a, x.b, x.c, x.d, x.e, x.f, x.g, x.h]

/-! ## Section 2: Rounds -/

/-- The constants added in the rounds. -/
def constants : List UInt32 :=
  [0x428a2f98, 0x71374491, 0xb5c0fbcf, 0xe9b5dba5, 0x3956c25b, 0x59f111f1, 0x923f82a4, 0xab1c5ed5,
    0xd807aa98, 0x12835b01, 0x243185be, 0x550c7dc3, 0x72be5d74, 0x80deb1fe, 0x9bdc06a7, 0xc19bf174,
    0xe49b69c1, 0xefbe4786, 0x0fc19dc6, 0x240ca1cc, 0x2de92c6f, 0x4a7484aa, 0x5cb0a9dc, 0x76f988da,
    0x983e5152, 0xa831c66d, 0xb00327c8, 0xbf597fc7, 0xc6e00bf3, 0xd5a79147, 0x06ca6351, 0x14292967,
    0x27b70a85, 0x2e1b2138, 0x4d2c6dfc, 0x53380d13, 0x650a7354, 0x766a0abb, 0x81c2c92e, 0x92722c85,
    0xa2bfe8a1, 0xa81a664b, 0xc24b8b70, 0xc76c51a3, 0xd192e819, 0xd6990624, 0xf40e3585, 0x106aa070,
    0x19a4c116, 0x1e376c08, 0x2748774c, 0x34b0bcb5, 0x391c0cb3, 0x4ed8aa4a, 0x5b9cca4f, 0x682e6ff3,
    0x748f82ee, 0x78a5636f, 0x84c87814, 0x8cc70208, 0x90befffa, 0xa4506ceb, 0xbef9a3f7, 0xc67178f2]

/-- The word turned right by `n` bits. -/
def rotate (x : UInt32) (n : UInt32) : UInt32 :=
  (x >>> n) ||| (x <<< (32 - n))

/-- The word that follows in a stretched block; `recent` holds the words
    before it, the last one first. -/
def nextWord (recent : List UInt32) : UInt32 :=
  let two := recent.getD 1 0
  let seven := recent.getD 6 0
  let fifteen := recent.getD 14 0
  let sixteen := recent.getD 15 0
  let s₀ := rotate fifteen 7 ^^^ rotate fifteen 18 ^^^ (fifteen >>> 3)
  let s₁ := rotate two 17 ^^^ rotate two 19 ^^^ (two >>> 10)
  sixteen + s₀ + seven + s₁

/-- A block (the last word first) after `n` further words were added. -/
def stretch : Nat → List UInt32 → List UInt32
  | 0, recent => recent
  | n + 1, recent => stretch n (nextWord recent :: recent)

/-- One round with its constant and its word. -/
def round (x : Words) (constant word : UInt32) : Words :=
  let s₁ := rotate x.e 6 ^^^ rotate x.e 11 ^^^ rotate x.e 25
  let choice := (x.e &&& x.f) ^^^ (~~~x.e &&& x.g)
  let t₁ := x.h + s₁ + choice + constant + word
  let s₀ := rotate x.a 2 ^^^ rotate x.a 13 ^^^ rotate x.a 22
  let majority := (x.a &&& x.b) ^^^ (x.a &&& x.c) ^^^ (x.b &&& x.c)
  ⟨t₁ + (s₀ + majority), x.a, x.b, x.c, x.d + t₁, x.e, x.f, x.g⟩

/-- The state after a block of sixteen words. -/
def mix (x : Words) (block : List UInt32) : Words :=
  let words := (stretch 48 block.reverse).reverse
  x.add ((constants.zip words).foldl (fun y pair => round y pair.1 pair.2) x)

/-! ## Section 3: Messages -/

/-- The eight bytes of a number, the most significant first. -/
def eightBytes (n : Nat) : Bytes :=
  [56, 48, 40, 32, 24, 16, 8, 0].map fun shift => UInt8.ofNat (n >>> shift)

/-- The message with a mark, zeros and its length in bits behind it. -/
def pad (message : Bytes) : Bytes :=
  let zeros := (119 - message.length % 64) % 64
  message ++ 0x80 :: List.replicate zeros 0 ++ eightBytes (8 * message.length)

/-- Four bytes at a time as one word. -/
def wordsOf : Bytes → List UInt32
  | a :: b :: c :: d :: rest =>
    (a.toUInt32 <<< 24 ||| b.toUInt32 <<< 16 ||| c.toUInt32 <<< 8 ||| d.toUInt32) :: wordsOf rest
  | _ => []

/-- The state after all words, sixteen at a time. -/
def mixAll (x : Words) (words : List UInt32) : Words :=
  if words.length < 16 then x else mixAll (mix x (words.take 16)) (words.drop 16)
termination_by words.length
decreasing_by
  simp only [List.length_drop]
  omega

/-- The digest of a message, as eight words. -/
def digest (message : Bytes) : Words :=
  mixAll start (wordsOf (pad message))

/-! ## Section 4: The written digest -/

/-- A word in eight lower-case hexadecimal digits. -/
def hexWord (word : UInt32) : List Char :=
  [28, 24, 20, 16, 12, 8, 4, 0].map fun shift => Nat.digitChar ((word.toNat >>> shift) % 16)

/-- The digest of a message in hexadecimal digits. -/
def hex (message : Bytes) : List Char :=
  (digest message).toList.flatMap hexWord

theorem length_hex (message : Bytes) : (hex message).length = 64 := by
  simp [hex, Words.toList, hexWord]

end DenoBridge.Sha256
