import Preflight.Hash.Sha512

/-!
BLAKE2b without a key: the hash of a byte string in at most sixty-four bytes. Its words are
sixty-four bits wide, the least significant byte first, and its initial words are those of SHA-512.
-/

namespace Preflight.Hash.Blake2b

/-! ## 1. Words -/

-- the order in which the twelve rounds take the words of a block
def orders : List (Array Nat) :=
  let ten : List (Array Nat) := [
    #[0, 1, 2, 3, 4, 5, 6, 7, 8, 9, 10, 11, 12, 13, 14, 15],
    #[14, 10, 4, 8, 9, 15, 13, 6, 1, 12, 0, 2, 11, 7, 5, 3],
    #[11, 8, 12, 0, 5, 2, 15, 13, 10, 14, 3, 6, 7, 1, 9, 4],
    #[7, 9, 3, 1, 13, 12, 11, 14, 2, 6, 5, 10, 4, 0, 15, 8],
    #[9, 0, 5, 7, 2, 4, 10, 15, 14, 1, 11, 12, 6, 8, 3, 13],
    #[2, 12, 6, 10, 0, 11, 8, 3, 4, 13, 7, 5, 15, 14, 1, 9],
    #[12, 5, 1, 15, 14, 13, 4, 10, 0, 7, 6, 3, 9, 2, 8, 11],
    #[13, 11, 7, 14, 12, 1, 3, 9, 5, 0, 15, 4, 8, 6, 2, 10],
    #[6, 15, 14, 9, 11, 3, 0, 8, 12, 2, 13, 7, 1, 4, 10, 5],
    #[10, 2, 8, 4, 7, 6, 1, 5, 15, 11, 9, 14, 3, 12, 13, 0]]
  ten ++ ten.take 2

def initial : Array UInt64 :=
  let s := Sha512.initial
  #[s.a, s.b, s.c, s.d, s.e, s.f, s.g, s.h]

-- the word that bytes write, the least significant byte first
def wordOf (bs : List UInt8) : UInt64 :=
  bs.foldr (fun b w => w * 256 + b.toUInt64) 0

-- the bytes of a word, the least significant first
def bytesOf (w : UInt64) : List UInt8 :=
  (List.range 8).map fun i => (w >>> UInt64.ofNat (8 * i)).toUInt8

-- the words of a byte string, of which there are that many
def wordsOf (count : Nat) (bs : List UInt8) : Array UInt64 :=
  ((List.range count).map fun i => wordOf ((bs.drop (8 * i)).take 8)).toArray

/-! ## 2. One block -/

/-- Mixes two words of a block into the words `a`, `b`, `c` and `d` of a state. -/
def mix (v : Array UInt64) (a b c d : Nat) (x y : UInt64) : Array UInt64 :=
  let va := v.getD a 0 + v.getD b 0 + x
  let vd := Sha512.rotate (v.getD d 0 ^^^ va) 32
  let vc := v.getD c 0 + vd
  let vb := Sha512.rotate (v.getD b 0 ^^^ vc) 24
  let va := va + vb + y
  let vd := Sha512.rotate (vd ^^^ va) 16
  let vc := vc + vd
  let vb := Sha512.rotate (vb ^^^ vc) 63
  (((v.setIfInBounds a va).setIfInBounds b vb).setIfInBounds c vc).setIfInBounds d vd

/-- The columns and diagonals of a state, in the order in which a round takes them. -/
def quarters : List (Nat × Nat × Nat × Nat) :=
  [(0, 4, 8, 12), (1, 5, 9, 13), (2, 6, 10, 14), (3, 7, 11, 15),
   (0, 5, 10, 15), (1, 6, 11, 12), (2, 7, 8, 13), (3, 4, 9, 14)]

def round (m : Array UInt64) (v : Array UInt64) (order : Array Nat) : Array UInt64 :=
  quarters.zipIdx.foldl
    (fun v ((a, b, c, d), i) =>
      mix v a b c d (m.getD (order.getD (2 * i) 0) 0) (m.getD (order.getD (2 * i + 1) 0) 0)) v

/-- Mixes a block into a state; `count` is the number of bytes up to its end. -/
def compress (h : Array UInt64) (block : List UInt8) (count : Nat) (isLast : Bool) :
    Array UInt64 :=
  let m := wordsOf 16 block
  let v := h ++ initial
  let v := v.setIfInBounds 12 (v.getD 12 0 ^^^ UInt64.ofNat count)
  let v := if isLast then v.setIfInBounds 14 (~~~(v.getD 14 0)) else v
  let v := orders.foldl (round m) v
  ((List.range 8).map fun i => h.getD i 0 ^^^ v.getD i 0 ^^^ v.getD (i + 8) 0).toArray

/-! ## 3. Messages -/

def blockSize : Nat := 128

-- mixes that many blocks and the rest of a message into a state
def absorb (h : Array UInt64) (before : Nat) (message : List UInt8) : Nat → Array UInt64
  | 0 =>
    let block := message ++ List.replicate (blockSize - message.length) 0
    compress h block (before + message.length) true
  | blocks + 1 =>
    let h := compress h (message.take blockSize) (before + blockSize) false
    absorb h (before + blockSize) (message.drop blockSize) blocks

def hash (size : Nat) (message : List UInt8) : List UInt8 :=
  let h := initial.setIfInBounds 0 (initial.getD 0 0 ^^^ 0x01010000 ^^^ UInt64.ofNat size)
  let h := absorb h 0 message ((message.length - 1) / blockSize)
  (h.toList.flatMap bytesOf).take size

end Preflight.Hash.Blake2b
