import Preflight.Key.Pair

/-!
Account addresses: a format byte, the public key and two bytes of a checksum, written to the base
fifty-eight.
-/

namespace Preflight.Key

/-! ## 1. Base fifty-eight -/

-- the digits, without those that look alike
def digits58 : List Char := "123456789ABCDEFGHJKLMNPQRSTUVWXYZabcdefghijkmnopqrstuvwxyz".toList

/-- The digits of a number, the least significant first; a bound on their number comes first. -/
def digitsWithin : Nat → Nat → List Char
  | 0, _ => []
  | bound + 1, n =>
    if n = 0 then [] else digits58.getD (n % 58) '1' :: digitsWithin bound (n / 58)

/-- Writes bytes to the base fifty-eight; every zero byte at the front becomes a `1`. -/
def base58 (bs : List UInt8) : List Char :=
  let n := bs.foldl (fun n b => n * 256 + b.toNat) 0
  (bs.takeWhile (· == 0)).map (fun _ => '1') ++ (digitsWithin (2 * bs.length) n).reverse

/-! ## 2. Addresses -/

-- the format of addresses that belong to no network in particular
def genericFormat : UInt8 := 42

def accountAddress (publicKey : List UInt8) : String :=
  let body := genericFormat :: publicKey
  let check := Hash.Blake2b.hash 64 (Text.Utf8.bytes "SS58PRE" ++ body)
  String.ofList (base58 (body ++ check.take 2))

namespace Pair

def publicKeyText (p : Pair) : String := String.ofList (Text.Hex.write p.publicKey)

def account (p : Pair) : String := accountAddress p.publicKey

end Pair

end Preflight.Key
