/-!
Exact decimals of ninety-six bits: a sign, a whole number below `2 ^ 96`, and the number of its
digits that stand behind the point, at most twenty-eight.
-/

namespace Preflight.Numeral

/-- The decimal `± mantissa / 10 ^ places`. -/
@[ext] structure Scaled where
  negative : Bool
  mantissa : Nat
  places : Nat
  deriving DecidableEq, Repr

namespace Scaled

def mantissaBound : Nat := Nat.pow 2 96

def maxPlaces : Nat := 28

/-- The digits of a text with at most one point, and how many of them are behind the point. -/
def split (cs : List Char) : List Char × List Char :=
  (cs.takeWhile (· != '.'), (cs.dropWhile (· != '.')).drop 1)

def readMagnitude? (negative : Bool) (cs : List Char) : Option Scaled :=
  let (whole, fraction) := split cs
  let digits := whole ++ fraction
  let mantissa := digits.foldl (fun n c => n * 10 + (c.toNat - 48)) 0
  if digits.all Char.isDigit && !digits.isEmpty && mantissa < mantissaBound
      && fraction.length ≤ maxPlaces then
    some ⟨negative, mantissa, fraction.length⟩
  else none

/-- Reads an exact decimal: perhaps a sign, and digits with at most one point. -/
def read? : List Char → Option Scaled
  | '-' :: cs => readMagnitude? true cs
  | '+' :: cs => readMagnitude? false cs
  | cs => readMagnitude? false cs

end Scaled

end Preflight.Numeral
