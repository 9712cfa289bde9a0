/-!
The field of integers modulo `2 ^ 255 - 19`: its operations, its powers, and square roots of
quotients.
-/

namespace Preflight.Curve

def fieldPrime : Nat := Nat.pow 2 255 - 19

instance : @NeZero Nat Zero.ofOfNat0 fieldPrime := ⟨by decide⟩

/-- Integers modulo the characteristic. -/
abbrev Field := Fin fieldPrime

namespace Field

def ofNat (n : Nat) : Field := Fin.ofNat fieldPrime n

-- whether an element counts as negative: its least number is odd
def isNegative (x : Field) : Bool := x.val % 2 = 1

-- the element of `x` and `-x` that is not negative
def magnitude (x : Field) : Field := if isNegative x then -x else x

/-- Powers by squaring, with the exponent given by its bits, the least significant first. -/
def powBits (x : Field) : List Bool → Field
  | [] => 1
  | bit :: bits =>
    let half := powBits (x * x) bits
    if bit then x * half else half

/-- The bits of a number, the least significant first, up to `count` of them. -/
def bits (count n : Nat) : List Bool := (List.range count).map fun i => n.testBit i

-- powers with an exponent below `2 ^ 255`
def pow (x : Field) (n : Nat) : Field := powBits x (bits 255 n)

def inverse (x : Field) : Field := pow x (fieldPrime - 2)

def rootOfMinusOne : Field := pow 2 ((fieldPrime - 1) / 4)

/-- The square root of `u / v` that is not negative if there is one, and otherwise that of
`u / v` times the root of minus one. -/
def sqrtRatio (u v : Field) : Field :=
  let r := u * (v * v * v) * pow (u * (v * v * v * v * v * v * v)) ((fieldPrime - 5) / 8)
  let check := v * (r * r)
  let r := if check = -u || check = -u * rootOfMinusOne then rootOfMinusOne * r else r
  magnitude r

end Field

end Preflight.Curve
