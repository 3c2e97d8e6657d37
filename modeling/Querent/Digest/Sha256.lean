import Querent.Text.Hex

/-! SHA-256 digests of text. -/

namespace Querent.Sha256

/-- The words that the rounds add, from the cube roots of the first primes. -/
def roundWords : List UInt32 :=
  [0x428a2f98, 0x71374491, 0xb5c0fbcf, 0xe9b5dba5, 0x3956c25b, 0x59f111f1, 0x923f82a4, 0xab1c5ed5,
    0xd807aa98, 0x12835b01, 0x243185be, 0x550c7dc3, 0x72be5d74, 0x80deb1fe, 0x9bdc06a7, 0xc19bf174,
    0xe49b69c1, 0xefbe4786, 0x0fc19dc6, 0x240ca1cc, 0x2de92c6f, 0x4a7484aa, 0x5cb0a9dc, 0x76f988da,
    0x983e5152, 0xa831c66d, 0xb00327c8, 0xbf597fc7, 0xc6e00bf3, 0xd5a79147, 0x06ca6351, 0x14292967,
    0x27b70a85, 0x2e1b2138, 0x4d2c6dfc, 0x53380d13, 0x650a7354, 0x766a0abb, 0x81c2c92e, 0x92722c85,
    0xa2bfe8a1, 0xa81a664b, 0xc24b8b70, 0xc76c51a3, 0xd192e819, 0xd6990624, 0xf40e3585, 0x106aa070,
    0x19a4c116, 0x1e376c08, 0x2748774c, 0x34b0bcb5, 0x391c0cb3, 0x4ed8aa4a, 0x5b9cca4f, 0x682e6ff3,
    0x748f82ee, 0x78a5636f, 0x84c87814, 0x8cc70208, 0x90befffa, 0xa4506ceb, 0xbef9a3f7, 0xc67178f2]

/-- The eight words of a state. -/
structure State where
  a : UInt32
  b : UInt32
  c : UInt32
  d : UInt32
  e : UInt32
  f : UInt32
  g : UInt32
  h : UInt32

namespace State

/-- The state before the first block, from the square roots of the first primes. -/
def initial : State :=
  ⟨0x6a09e667, 0xbb67ae85, 0x3c6ef372, 0xa54ff53a, 0x510e527f, 0x9b05688c, 0x1f83d9ab, 0x5be0cd19⟩

/-- The words in order. -/
def words (s : State) : List UInt32 :=
  [s.a, s.b, s.c, s.d, s.e, s.f, s.g, s.h]

/-- Two states added word by word. -/
def add (s t : State) : State :=
  ⟨s.a + t.a, s.b + t.b, s.c + t.c, s.d + t.d, s.e + t.e, s.f + t.f, s.g + t.g, s.h + t.h⟩

end State

/-- A word turned to the right. -/
def rotate (word places : UInt32) : UInt32 :=
  (word >>> places) ||| (word <<< (32 - places))

/-- One round, which takes a word of the schedule and its own word. -/
def round (s : State) (words : UInt32 × UInt32) : State :=
  let turned := rotate s.e 6 ^^^ rotate s.e 11 ^^^ rotate s.e 25
  let chosen := (s.e &&& s.f) ^^^ (~~~s.e &&& s.g)
  let left := s.h + turned + chosen + words.1 + words.2
  let turned := rotate s.a 2 ^^^ rotate s.a 13 ^^^ rotate s.a 22
  let majority := (s.a &&& s.b) ^^^ (s.a &&& s.c) ^^^ (s.b &&& s.c)
  ⟨left + (turned + majority), s.a, s.b, s.c, s.d + left, s.e, s.f, s.g⟩

/-- The word that follows sixteen others in the schedule. -/
def nextWord (window : List UInt32) : UInt32 :=
  let late := window.getD 14 0
  let early := window.getD 1 0
  (rotate late 17 ^^^ rotate late 19 ^^^ (late >>> 10)) + window.getD 9 0 +
    (rotate early 7 ^^^ rotate early 18 ^^^ (early >>> 3)) + window.getD 0 0

/-- Words of the schedule from a window of sixteen on, the window moving on by one word each time.
-/
def schedule : Nat → List UInt32 → List UInt32
  | 0, _ => []
  | count + 1, window => window.headD 0 :: schedule count (window.drop 1 ++ [nextWord window])

/-- The state after a block of sixteen words. -/
def compress (s : State) (block : List UInt32) : State :=
  s.add ((schedule 64 block).zip roundWords |>.foldl round s)

/-- The state after some blocks of sixteen words. -/
def absorb : Nat → State → List UInt32 → State
  | 0, s, _ => s
  | blocks + 1, s, words => absorb blocks (compress s (words.take 16)) (words.drop 16)

/-- The bytes of a number, the highest first. -/
def bigEndian : Nat → Nat → List UInt8
  | 0, _ => []
  | width + 1, n => bigEndian width (n / 256) ++ [UInt8.ofNat n]

/-- Bytes padded to whole blocks: a mark, zeros, and the length in bits. -/
def pad (bytes : List UInt8) : List UInt8 :=
  let zeros := List.replicate ((119 - bytes.length % 64) % 64) 0
  bytes ++ 0x80 :: zeros ++ bigEndian 8 (bytes.length * 8)

/-- The words of bytes, four at a time. -/
def wordsOf : List UInt8 → List UInt32
  | a :: b :: c :: d :: rest =>
    let high := (a.toUInt32 <<< 24) ||| (b.toUInt32 <<< 16)
    (high ||| (c.toUInt32 <<< 8) ||| d.toUInt32) :: wordsOf rest
  | _ => []

/-- The eight words of the digest of some bytes. -/
def digest (bytes : List UInt8) : List UInt32 :=
  let words := wordsOf (pad bytes)
  (absorb (words.length / 16) .initial words).words

/-- The digest of a text, to base sixteen. -/
def hex (text : String) : String :=
  String.ofList ((digest text.toUTF8.toList).flatMap fun word => hexDigits 8 word.toNat)

end Querent.Sha256
