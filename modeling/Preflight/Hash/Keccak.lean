import Preflight.Hash.Blake2b

/-!
The permutation Keccak-f[1600] on two hundred bytes, seen as five by five words of sixty-four bits.
-/

namespace Preflight.Hash.Keccak

/-! ## 1. Constants -/

def roundConstants : List UInt64 := [
  0x0000000000000001, 0x0000000000008082, 0x800000000000808A, 0x8000000080008000,
  0x000000000000808B, 0x0000000080000001, 0x8000000080008081, 0x8000000000008009,
  0x000000000000008A, 0x0000000000000088, 0x0000000080008009, 0x000000008000000A,
  0x000000008000808B, 0x800000000000008B, 0x8000000000008089, 0x8000000000008003,
  0x8000000000008002, 0x8000000000000080, 0x000000000000800A, 0x800000008000000A,
  0x8000000080008081, 0x8000000000008080, 0x0000000080000001, 0x8000000080008008]

/-- How far each word is rotated to the left, in the order of the words. -/
def offsets : Array UInt64 := #[
  0, 1, 62, 28, 27, 36, 44, 6, 55, 20, 3, 10, 43, 25, 39, 41, 45, 15, 21, 8, 18, 2, 61, 56, 14]

def rotateLeft (x n : UInt64) : UInt64 :=
  if n == 0 then x else (x <<< n) ||| (x >>> (64 - n))

/-! ## 2. The permutation -/

-- the word in column `x` of row `y`, both modulo five
def word (a : Array UInt64) (x y : Nat) : UInt64 := a.getD (x % 5 + 5 * (y % 5)) 0

def table (f : Nat → Nat → UInt64) : Array UInt64 :=
  ((List.range 25).map fun i => f (i % 5) (i / 5)).toArray

def parity (a : Array UInt64) (x : Nat) : UInt64 :=
  word a x 0 ^^^ word a x 1 ^^^ word a x 2 ^^^ word a x 3 ^^^ word a x 4

-- adds to every column the parities of its neighbours
def mixColumns (a : Array UInt64) : Array UInt64 :=
  let parities := ((List.range 5).map (parity a)).toArray
  table fun x y =>
    word a x y ^^^ parities.getD ((x + 4) % 5) 0
      ^^^ rotateLeft (parities.getD ((x + 1) % 5) 0) 1

def spread (a : Array UInt64) : Array UInt64 :=
  table fun x y =>
    let i := (x + 3 * y) % 5 + 5 * x
    rotateLeft (a.getD i 0) (offsets.getD i 0)

def combine (a : Array UInt64) : Array UInt64 :=
  table fun x y => word a x y ^^^ (~~~(word a (x + 1) y) &&& word a (x + 2) y)

def round (a : Array UInt64) (constant : UInt64) : Array UInt64 :=
  let a := combine (spread (mixColumns a))
  a.setIfInBounds 0 (a.getD 0 0 ^^^ constant)

def permute (bytes : List UInt8) : List UInt8 :=
  (roundConstants.foldl round (Blake2b.wordsOf 25 bytes)).toList.flatMap Blake2b.bytesOf

end Preflight.Hash.Keccak
