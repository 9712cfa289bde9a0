/-!
Binary numbers of fifty-three significant bits. A decimal is rounded to the nearest of them, a half
to the even neighbour, and such a number is written with the fewest digits that are rounded back to
it, without an exponent.
-/

namespace Preflight.Numeral

/-! ## 1. Numbers -/

/-- A binary number: zero or finite with a whole significand times a power of two, or not finite. -/
inductive Binary where
  | finite (negative : Bool) (significand : Nat) (exponent : Int)
  | infinite (negative : Bool)
  | undefined
  deriving DecidableEq, Repr

namespace Binary

def minExponent : Int := -1074

def maxExponent : Int := 971

def significandBound : Nat := Nat.pow 2 53

def isFinite : Binary → Bool
  | finite .. => true
  | infinite _ => false
  | undefined => false

/-! ## 2. Rounding -/

/-- The numerator and denominator of `num / den` divided by `base ^ exponent`. -/
def scaleDown (base : Nat) (exponent : Int) (num den : Nat) : Nat × Nat :=
  if 0 ≤ exponent then (num, den * base.pow exponent.toNat)
  else (num * base.pow (-exponent).toNat, den)

/-- The whole number nearest to `num / den`; a half goes to the even one. -/
def nearest (num den : Nat) : Nat :=
  let floor := num / den
  let rest := num % den
  if 2 * rest < den then floor
  else if den < 2 * rest then floor + 1
  else if floor % 2 = 0 then floor else floor + 1

def ofQuotient (negative : Bool) (num den : Nat) : Binary :=
  let guess := max minExponent ((num.log2 : Int) - (den.log2 : Int) - 53)
  let (n, d) := scaleDown 2 guess num den
  let exponent := if n / d < significandBound then guess else guess + 1
  let (n, d) := scaleDown 2 exponent num den
  let significand := nearest n d
  let (significand, exponent) :=
    if significand = significandBound then (significand / 2, exponent + 1)
    else (significand, exponent)
  if maxExponent < exponent then infinite negative else finite negative significand exponent

def valueOf (digits : List Nat) : Nat :=
  digits.foldl (fun n d => n * 10 + d) 0

/-- The binary number nearest to the decimal with the given digits times a power of ten. Magnitudes
far out of range are decided by their number of digits alone. -/
def ofDecimal (negative : Bool) (digits : List Nat) (exponent : Int) : Binary :=
  let digits := digits.dropWhile (· == 0)
  let places := (digits.length : Int) + exponent
  if digits.isEmpty || places < -400 then finite negative 0 minExponent
  else if 400 < places then infinite negative
  else
    let (n, d) := scaleDown 10 (-exponent) (valueOf digits) 1
    ofQuotient negative n d

/-! ## 3. The fewest digits -/

/-- The numbers between which everything is rounded to `significand * 2 ^ exponent`, in quarters of
`2 ^ exponent`. Below a power of two the gap is half as wide. -/
def lowerQuarters (significand : Nat) (exponent : Int) : Nat :=
  if significand = Nat.pow 2 52 && minExponent < exponent then 4 * significand - 1
  else 4 * significand - 2

def upperQuarters (significand : Nat) : Nat := 4 * significand + 2

/-- Whether `k * 10 ^ grid` is rounded to `significand * 2 ^ exponent`. -/
def roundsTo (significand : Nat) (exponent grid : Int) (k : Nat) : Bool :=
  -- both sides in quarters of `2 ^ exponent`, as a quotient
  let (n, d) := scaleDown 10 (-grid) (4 * k) 1
  let (n, d) := scaleDown 2 exponent n d
  let low := lowerQuarters significand exponent * d
  let high := upperQuarters significand * d
  if significand % 2 = 0 then low ≤ n && n ≤ high else low < n && n < high

/-- The number of decimal places before the point of a positive quotient: the `k` with
`10 ^ (k - 1) ≤ num / den < 10 ^ k`. -/
def decimalPlaces (num den : Nat) : Int :=
  let guess : Int := ((Nat.toDigits 10 num).length : Int) - ((Nat.toDigits 10 den).length : Int)
  let (n, d) := scaleDown 10 guess num den
  if n < d then guess else guess + 1

/-- The shortest decimal that is rounded to `significand * 2 ^ exponent`, as a whole number and a
power of ten: the first grid of powers of ten, from coarse to fine, on which a neighbour of the
number is rounded to it, and the nearer neighbour if both are. -/
def shortest (significand : Nat) (exponent : Int) : Nat × Int :=
  let (num, den) := scaleDown 2 (-exponent) significand 1
  let places := decimalPlaces num den
  let onGrid (count : Nat) : Option (Nat × Int) :=
    let grid := places - count
    let (n, d) := scaleDown 10 grid num den
    let below := n / d
    let lowOk := roundsTo significand exponent grid below
    let highOk := roundsTo significand exponent grid (below + 1)
    if lowOk && highOk then
      some (if 2 * (n % d) ≤ d then (below, grid) else (below + 1, grid))
    else if lowOk then some (below, grid)
    else if highOk then some (below + 1, grid)
    else none
  match (List.range 17).findSome? fun i => onGrid (i + 1) with
  | some found => found
  | none => (significand, 0)

/-- A decimal without an exponent and with at least one digit behind the point. -/
def positional (value : Nat) (grid : Int) : List Char :=
  let ds := Nat.toDigits 10 value
  if 0 ≤ grid then ds ++ List.replicate grid.toNat '0' ++ ['.', '0']
  else
    let fraction := (-grid).toNat
    let ds := List.replicate (fraction + 1 - ds.length) '0' ++ ds
    let tail := ((ds.drop (ds.length - fraction)).reverse.dropWhile (· == '0')).reverse
    ds.take (ds.length - fraction) ++ '.' :: (if tail.isEmpty then ['0'] else tail)

/-- The text of a binary number: the fewest digits, no exponent, and a point in every finite one. -/
def text : Binary → String
  | undefined => "NaN"
  | infinite negative => if negative then "-inf" else "inf"
  | finite negative significand exponent =>
    let (value, grid) := if significand = 0 then (0, 0) else shortest significand exponent
    String.ofList ((if negative then ['-'] else []) ++ positional value grid)

end Binary

end Preflight.Numeral
