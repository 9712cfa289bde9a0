import Preflight.Hash.Sha512

/-!
Keyed hashes over SHA-512, and bytes derived from a password by repeating them.
-/

namespace Preflight.Hash

/-! ## 1. Keyed hashes -/

/-- A key of keyed hashing: the states behind its inner and its outer block. -/
structure MacKey where
  inner : Sha512.State
  outer : Sha512.State

namespace MacKey

/-- The state behind the block of a key of at most one block, each byte masked. -/
def masked (mask : UInt8) (key : List UInt8) : Sha512.State :=
  let block := key ++ List.replicate (Sha512.blockSize - key.length) 0
  Sha512.absorb Sha512.initial (block.map (· ^^^ mask)) 1

/-- The key of a byte string; one longer than a block is hashed first. -/
def ofBytes (key : List UInt8) : MacKey :=
  let key := if Sha512.blockSize < key.length then Sha512.hash key else key
  ⟨masked 0x36 key, masked 0x5C key⟩

def mac (key : MacKey) (message : List UInt8) : List UInt8 :=
  Sha512.finish key.outer Sha512.blockSize (Sha512.finish key.inner Sha512.blockSize message)

end MacKey

/-! ## 2. Derived bytes -/

def xorBytes (a b : List UInt8) : List UInt8 := a.zipWith (· ^^^ ·) b

/-- Goes on hashing `block`, and adds every hash to `sum` without carries. -/
def repeatMac (key : MacKey) : Nat → (block sum : List UInt8) → List UInt8
  | 0, _, sum => sum
  | rounds + 1, block, sum =>
    let block := key.mac block
    repeatMac key rounds block (xorBytes sum block)

/-- Sixty-four bytes derived from a password and a salt in that many rounds. -/
def derive (password salt : List UInt8) (rounds : Nat) : List UInt8 :=
  let key := MacKey.ofBytes password
  let first := key.mac (salt ++ [0, 0, 0, 1])
  repeatMac key (rounds - 1) first first

end Preflight.Hash
