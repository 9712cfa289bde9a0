import Preflight.HexText

/-!
Contract addresses: twenty bytes, written as `0x` and forty lower-case hexadecimal digits.
-/

namespace Preflight

def addressLength : Nat := 20

/-- The address of a contract. -/
@[ext] structure Address where
  bytes : List UInt8
  length_bytes : bytes.length = addressLength
  deriving DecidableEq, Repr

namespace Address

/-- Reads an address from its hexadecimal form, with or without `0x`. -/
def parse (s : String) : Except Fault Address :=
  match HexText.parseBytes s with
  | .error e => .error (.address s!"Invalid hex: {e.message}")
  | .ok bs =>
    if h : bs.length = addressLength then .ok ⟨bs, h⟩
    else .error (.address s!"H160 must be 20 bytes in length, got {bs.length}")

def text (a : Address) : String :=
  String.ofList (Text.Hex.write a.bytes)

end Address

end Preflight
