/-!
SHA-256: the hash of a byte string in 32 bytes. A message is padded to whole blocks of 64 bytes,
and each block is mixed into a state of eight 32-bit words.
-/

namespace Preflight.Hash.Sha256

/-! ## 1. Words -/

/-- The first 32 bits of the fractional parts of the cube roots of the first 64 primes. -/
def roundConstants : Array UInt32 := #[
    0x428a2f98, 0x71374491, 0xb5c0fbcf, 0xe9b5dba5, 0x3956c25b, 0x59f111f1, 0x923f82a4, 0xab1c5ed5,
    0xd807aa98, 0x12835b01, 0x243185be, 0x550c7dc3, 0x72be5d74, 0x80deb1fe, 0x9bdc06a7, 0xc19bf174,
    0xe49b69c1, 0xefbe4786, 0x0fc19dc6, 0x240ca1cc, 0x2de92c6f, 0x4a7484aa, 0x5cb0a9dc, 0x76f988da,
    0x983e5152, 0xa831c66d, 0xb00327c8, 0xbf597fc7, 0xc6e00bf3, 0xd5a79147, 0x06ca6351, 0x14292967,
    0x27b70a85, 0x2e1b2138, 0x4d2c6dfc, 0x53380d13, 0x650a7354, 0x766a0abb, 0x81c2c92e, 0x92722c85,
    0xa2bfe8a1, 0xa81a664b, 0xc24b8b70, 0xc76c51a3, 0xd192e819, 0xd6990624, 0xf40e3585, 0x106aa070,
    0x19a4c116, 0x1e376c08, 0x2748774c, 0x34b0bcb5, 0x391c0cb3, 0x4ed8aa4a, 0x5b9cca4f, 0x682e6ff3,
    0x748f82ee, 0x78a5636f, 0x84c87814, 0x8cc70208, 0x90befffa, 0xa4506ceb, 0xbef9a3f7, 0xc67178f2]

/-- Eight words. -/
structure State where
  a : UInt32
  b : UInt32
  c : UInt32
  d : UInt32
  e : UInt32
  f : UInt32
  g : UInt32
  h : UInt32

/-- The first 32 bits of the fractional parts of the square roots of the first eight primes. -/
def initial : State :=
  ⟨0x6a09e667, 0xbb67ae85, 0x3c6ef372, 0xa54ff53a,
    0x510e527f, 0x9b05688c, 0x1f83d9ab, 0x5be0cd19⟩

def rotate (x : UInt32) (n : UInt32) : UInt32 :=
  (x >>> n) ||| (x <<< (32 - n))

-- the word that bytes write, the most significant byte first
def wordOf (bs : List UInt8) : UInt32 :=
  bs.foldl (fun w b => w * 256 + b.toUInt32) 0

-- the bytes of a word, the most significant first
def bytesOf (w : UInt32) : List UInt8 :=
  (List.range 4).map fun i => (w >>> (UInt32.ofNat (8 * (3 - i)))).toUInt8

/-! ## 2. One block -/

-- the word of the schedule that follows the words so far
def nextWord (w : Array UInt32) : UInt32 :=
  let n := w.size
  let x := w.getD (n - 15) 0
  let y := w.getD (n - 2) 0
  let lower := rotate x 7 ^^^ rotate x 18 ^^^ (x >>> 3)
  let upper := rotate y 17 ^^^ rotate y 19 ^^^ (y >>> 10)
  w.getD (n - 16) 0 + lower + w.getD (n - 7) 0 + upper

-- sixteen words of a block, continued to 64 words
def schedule (block : Array UInt32) : Array UInt32 :=
  (List.range 48).foldl (fun w _ => w.push (nextWord w)) block

-- one round, with a round constant plus a word of the schedule
def round (s : State) (x : UInt32) : State :=
  let upper := rotate s.e 6 ^^^ rotate s.e 11 ^^^ rotate s.e 25
  let choice := (s.e &&& s.f) ^^^ (~~~s.e &&& s.g)
  let first := s.h + upper + choice + x
  let lower := rotate s.a 2 ^^^ rotate s.a 13 ^^^ rotate s.a 22
  let majority := (s.a &&& s.b) ^^^ (s.a &&& s.c) ^^^ (s.b &&& s.c)
  ⟨first + lower + majority, s.a, s.b, s.c, s.d + first, s.e, s.f, s.g⟩

def compress (s : State) (block : Array UInt32) : State :=
  let w := schedule block
  let t := (List.range 64).foldl
    (fun t i => round t (roundConstants.getD i 0 + w.getD i 0)) s
  ⟨s.a + t.a, s.b + t.b, s.c + t.c, s.d + t.d, s.e + t.e, s.f + t.f, s.g + t.g, s.h + t.h⟩

/-! ## 3. Messages -/

def blockSize : Nat := 64

def blockOf (bs : List UInt8) : Array UInt32 :=
  ((List.range 16).map fun i => wordOf ((bs.drop (4 * i)).take 4)).toArray

/-- Mixes that many blocks from the front of a byte string into a state. -/
def absorb (s : State) (bs : List UInt8) : Nat → State
  | 0 => s
  | blocks + 1 => absorb (compress s (blockOf (bs.take blockSize))) (bs.drop blockSize) blocks

/-- What is put behind a message of that many bytes: a one bit, zeros, and the number of its bits in
8 bytes, up to the end of a block. -/
def padding (length : Nat) : List UInt8 :=
  let zeros := (2 * blockSize - 1 - 8 - length % blockSize) % blockSize
  0x80 :: List.replicate (zeros + 0) 0
    ++ (List.range 8).map fun i => UInt8.ofNat (8 * length / Nat.pow 256 (7 - i))

def digest (s : State) : List UInt8 :=
  [s.a, s.b, s.c, s.d, s.e, s.f, s.g, s.h].flatMap bytesOf

/-- The hash of a message of which that many bytes, in whole blocks, are already in a state. -/
def finish (s : State) (before : Nat) (message : List UInt8) : List UInt8 :=
  let padded := message ++ padding (before + message.length)
  digest (absorb s padded (padded.length / blockSize))

def hash (message : List UInt8) : List UInt8 :=
  finish initial 0 message

end Preflight.Hash.Sha256
