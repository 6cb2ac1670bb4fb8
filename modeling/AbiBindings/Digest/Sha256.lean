/-!
# Digest — SHA-256

A message is padded to a whole number of blocks of sixteen 32-bit words, high byte first: a one bit,
zeros, and the length in bits as a 64-bit number. Each block is expanded into a schedule of 64 words,
and 64 rounds mix the schedule into eight words of state.
-/

namespace AbiBindings

/-- A digest of 256 bits as eight words. -/
structure Digest where
  a : UInt32
  b : UInt32
  c : UInt32
  d : UInt32
  e : UInt32
  f : UInt32
  g : UInt32
  h : UInt32
  deriving DecidableEq, Repr

namespace Digest

/-! ## Padding -/

/-- The bytes of a number below `256 ^ count`, the highest first. -/
def bigEndian (n : Nat) (count : Nat) : List UInt8 :=
  (List.range count).reverse.map fun i => UInt8.ofNat (n / Nat.pow 256 i % 256)

/-- A message with its padding. -/
def pad (message : List UInt8) : List UInt8 :=
  let length := message.length
  let zeros := (119 - length % 64) % 64
  message ++ 0x80 :: List.replicate zeros 0 ++ bigEndian (8 * length) 8

/-- Bytes as words of four, the highest first; a rest of less than four is left out. -/
def toWords : List UInt8 → List UInt32
  | a :: b :: c :: d :: rest =>
    (a.toUInt32 <<< 24 ||| b.toUInt32 <<< 16 ||| c.toUInt32 <<< 8 ||| d.toUInt32) :: toWords rest
  | _ => []

/-- Words in blocks of sixteen. -/
def blocks (words : List UInt32) : List (Array UInt32) :=
  (List.range (words.length / 16)).map fun i => ((words.drop (16 * i)).take 16).toArray

/-! ## Mixing -/

/-- Rotate to the right, for `0 < count < 32`. -/
def rotate (x : UInt32) (count : UInt32) : UInt32 := x >>> count ||| x <<< (32 - count)

/-- The constants of the rounds. -/
def roundConstants : List UInt32 := [
  0x428a2f98, 0x71374491, 0xb5c0fbcf, 0xe9b5dba5, 0x3956c25b, 0x59f111f1, 0x923f82a4, 0xab1c5ed5,
  0xd807aa98, 0x12835b01, 0x243185be, 0x550c7dc3, 0x72be5d74, 0x80deb1fe, 0x9bdc06a7, 0xc19bf174,
  0xe49b69c1, 0xefbe4786, 0x0fc19dc6, 0x240ca1cc, 0x2de92c6f, 0x4a7484aa, 0x5cb0a9dc, 0x76f988da,
  0x983e5152, 0xa831c66d, 0xb00327c8, 0xbf597fc7, 0xc6e00bf3, 0xd5a79147, 0x06ca6351, 0x14292967,
  0x27b70a85, 0x2e1b2138, 0x4d2c6dfc, 0x53380d13, 0x650a7354, 0x766a0abb, 0x81c2c92e, 0x92722c85,
  0xa2bfe8a1, 0xa81a664b, 0xc24b8b70, 0xc76c51a3, 0xd192e819, 0xd6990624, 0xf40e3585, 0x106aa070,
  0x19a4c116, 0x1e376c08, 0x2748774c, 0x34b0bcb5, 0x391c0cb3, 0x4ed8aa4a, 0x5b9cca4f, 0x682e6ff3,
  0x748f82ee, 0x78a5636f, 0x84c87814, 0x8cc70208, 0x90befffa, 0xa4506ceb, 0xbef9a3f7, 0xc67178f2]

/-- The state before the first block. -/
def initial : Digest :=
  ⟨0x6a09e667, 0xbb67ae85, 0x3c6ef372, 0xa54ff53a, 0x510e527f, 0x9b05688c, 0x1f83d9ab, 0x5be0cd19⟩

/-- A schedule with one more word. -/
def extend (words : Array UInt32) : Array UInt32 :=
  let back (n : Nat) := words.getD (words.size - n) 0
  let low := rotate (back 15) 7 ^^^ rotate (back 15) 18 ^^^ back 15 >>> 3
  let high := rotate (back 2) 17 ^^^ rotate (back 2) 19 ^^^ back 2 >>> 10
  words.push (back 16 + low + back 7 + high)

/-- The schedule of a block. -/
def schedule (block : Array UInt32) : Array UInt32 := Nat.repeat extend 48 block

/-- One round with its constant and its word of the schedule. -/
def round (s : Digest) (constant word : UInt32) : Digest :=
  let mixE := rotate s.e 6 ^^^ rotate s.e 11 ^^^ rotate s.e 25
  let choice := s.e &&& s.f ^^^ ~~~s.e &&& s.g
  let first := s.h + mixE + choice + constant + word
  let mixA := rotate s.a 2 ^^^ rotate s.a 13 ^^^ rotate s.a 22
  let majority := s.a &&& s.b ^^^ s.a &&& s.c ^^^ s.b &&& s.c
  ⟨first + mixA + majority, s.a, s.b, s.c, s.d + first, s.e, s.f, s.g⟩

/-- Mix a block into the state. -/
def absorb (s : Digest) (block : Array UInt32) : Digest :=
  let t := (roundConstants.zip (schedule block).toList).foldl (fun t (k, w) => round t k w) s
  ⟨s.a + t.a, s.b + t.b, s.c + t.c, s.d + t.d, s.e + t.e, s.f + t.f, s.g + t.g, s.h + t.h⟩

/-- The digest of a message. -/
def sha256 (message : List UInt8) : Digest :=
  (blocks (toWords (pad message))).foldl absorb initial

/-! ## Text -/

/-- The eight hexadecimal digits of a word. -/
def hexWord (word : UInt32) : String :=
  String.ofList ((List.range 8).reverse.map fun i => Nat.digitChar (word.toNat / Nat.pow 16 i % 16))

/-- The 64 hexadecimal digits of a digest. -/
def hex (digest : Digest) : String :=
  String.join ([digest.a, digest.b, digest.c, digest.d, digest.e, digest.f, digest.g,
    digest.h].map hexWord)

/-- The first eight digits, which are enough to tell a few digests apart. -/
def shortHex (digest : Digest) : String := hexWord digest.a

end Digest

end AbiBindings
