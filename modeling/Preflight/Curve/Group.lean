import Preflight.Curve.Field

/-!
The group of prime order on the twisted Edwards curve over the field modulo `2 ^ 255 - 19`: adding
points, multiples of the base point, and the thirty-two bytes that stand for a class of points.
-/

namespace Preflight.Curve

-- the order of the group
def groupOrder : Nat := Nat.pow 2 252 + 27742317777372353535851937790883648493

-- the constant `d` of the curve `-x² + y² = 1 + d x² y²`
def curveConstant : Field := -Field.ofNat 121665 * Field.inverse (Field.ofNat 121666)

/-- A point by four coordinates: the affine point is `(x / z, y / z)`, and `x * y = z * t`. -/
structure Point where
  x : Field
  y : Field
  z : Field
  t : Field

namespace Point

def zero : Point := ⟨0, 1, 1, 0⟩

-- the base point, whose affine second coordinate is four fifths
def base : Point :=
  let x := Field.ofNat
    15112221349535400772501151409588531511454012693041857206046113283949847762202
  let y := Field.ofNat
    46316835694926478169428394003475163141307993866256225615783033603165251855960
  ⟨x, y, 1, x * y⟩

def add (twoD : Field) (p q : Point) : Point :=
  let a := (p.y - p.x) * (q.y - q.x)
  let b := (p.y + p.x) * (q.y + q.x)
  let c := p.t * twoD * q.t
  let d := p.z * q.z + p.z * q.z
  let e := b - a
  let f := d - c
  let g := d + c
  let h := b + a
  ⟨e * f, g * h, f * g, e * h⟩

/-- The sum of the points `p`, `2 p`, `4 p`, … that the bits pick out, the least significant bit
first. -/
def timesBits (twoD : Field) (p : Point) : List Bool → Point
  | [] => zero
  | bit :: bits =>
    let rest := timesBits twoD (add twoD p p) bits
    if bit then add twoD p rest else rest

-- a multiple of a point, by a number below `2 ^ 256`
def times (n : Nat) (p : Point) : Point :=
  timesBits (curveConstant + curveConstant) p (Field.bits 256 n)

/-! ## Encoding -/

-- the bytes of a number, the least significant first
def littleEndian (count n : Nat) : List UInt8 :=
  (List.range count).map fun i => UInt8.ofNat (n / Nat.pow 256 i)

-- the number that bytes write, the least significant first
def ofLittleEndian (bs : List UInt8) : Nat :=
  bs.foldr (fun b n => n * 256 + b.toNat) 0

/-- The element of the field that stands for a point, the same for the points that differ by one of
order at most four. -/
def representative (p : Point) : Field :=
  let u := (p.z + p.y) * (p.z - p.y)
  let v := p.x * p.y
  let root := Field.sqrtRatio 1 (u * (v * v))
  let denU := root * u
  let denV := root * v
  let zInverse := denU * denV * p.t
  let rotate := Field.isNegative (p.t * zInverse)
  let x := if rotate then p.y * Field.rootOfMinusOne else p.x
  let y := if rotate then p.x * Field.rootOfMinusOne else p.y
  let den := if rotate then denU * Field.sqrtRatio 1 (-1 - curveConstant) else denV
  let y := if Field.isNegative (x * zInverse) then -y else y
  Field.magnitude (den * (p.z - y))

def encode (p : Point) : List UInt8 := littleEndian 32 p.representative.val

end Point

end Preflight.Curve
