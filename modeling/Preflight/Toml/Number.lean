import Preflight.Numeral.Binary
import Preflight.Toml.Fault
import Preflight.Toml.Token

/-!
Numbers of a TOML document: decimal integers with a sign and without leading zeros, integers to the
bases two, eight and sixteen behind `0b`, `0o` and `0x`, all of sixty-four bits, and decimal
fractions. An underscore may stand between two digits.
-/

namespace Preflight.Toml

/-! ## 1. Runs of digits -/

def digitValue? (radix : Nat) (c : Char) : Option Nat :=
  match Text.Hex.value? c with
  | some d => if d < radix then some d else none
  | none => none

/-- How a run of digits may look. -/
structure DigitRule where
  radix : Nat := 10
  sign : Bool
  -- whether a run may begin with a zero and go on
  leadingZeros : Bool

/-- What was seen of a run of digits. -/
structure Seen where
  nothing : Bool := true
  zeroFirst : Bool := false
  -- whether the last character was an underscore
  underscore : Bool := false

/-- Splits a text behind its run of digits and underscores. `start` is the offset of the text and
`offset` that of the characters that are left. -/
def splitDigits (rule : DigitRule) (start offset : Nat) (seen : Seen) :
    List Char → Except Fault (List Char × List Char)
  | [] =>
    if seen.nothing || seen.underscore then .error (.here .badNumber start) else .ok ([], [])
  | c :: cs =>
    let on (seen : Seen) := do
      let (taken, rest) ← splitDigits rule start (offset + 1) seen cs
      return (c :: taken, rest)
    if c = '0' && seen.nothing then on ⟨false, true, seen.underscore⟩
    else if (digitValue? rule.radix c).isSome then
      if !seen.nothing && seen.zeroFirst && !rule.leadingZeros then .error (.here .badNumber offset)
      else on ⟨false, seen.zeroFirst, false⟩
    else if c = '_' && seen.nothing then .error (.here .badNumber offset)
    else if c = '_' && !seen.underscore then on ⟨false, seen.zeroFirst, true⟩
    else if seen.nothing || seen.underscore then .error (.here .badNumber start)
    else .ok ([], c :: cs)

/-- A run of digits with its sign: whether it is negative, its digits, and what is behind it. -/
structure Digits where
  negative : Bool
  digits : List Nat
  rest : List Char

/-- Reads the run of digits at the front of a text, with a minus sign if the rule has signs. -/
def readDigits (rule : DigitRule) (start : Nat) (cs : List Char) : Except Fault Digits := do
  let (negative, offset, cs) := match cs with
    | '-' :: r => if rule.sign then (true, start + 1, r) else (false, start, cs)
    | _ => (false, start, cs)
  let (taken, rest) ← splitDigits rule start offset {} cs
  return ⟨negative, taken.filterMap (digitValue? rule.radix), rest⟩

/-! ## 2. Integers -/

def integerBound : Int := .ofNat (Nat.pow 2 63)

def readInteger (rule : DigitRule) (start : Nat) (cs : List Char) : Except Fault Int := do
  let run ← readDigits rule start cs
  let magnitude : Int := (run.digits.foldl (fun n d => n * rule.radix + d) 0 : Nat)
  let n := if run.negative then -magnitude else magnitude
  if run.rest.isEmpty && -integerBound ≤ n && n < integerBound then return n
  else throw (.here .badNumber start)

-- the base that a text is marked with, and its digits
def basePrefixed? : List Char → Option (Nat × List Char)
  | '0' :: 'x' :: r => some (16, r)
  | '0' :: 'o' :: r => some (8, r)
  | '0' :: 'b' :: r => some (2, r)
  | _ => none

/-! ## 3. Decimal fractions -/

/-- The parts of a decimal fraction. -/
structure Fraction where
  negative : Bool
  integral : List Nat
  fractional : List Nat := []
  exponentNegative : Bool := false
  exponent : List Nat := []

/-- The number with these parts, if it is finite. It lies at the offset `start`. -/
def Fraction.number (f : Fraction) (start : Nat) : Except Fault Numeral.Binary :=
  let magnitude : Int := Numeral.Binary.valueOf f.exponent
  let exponent := if f.exponentNegative then -magnitude else magnitude
  let x := Numeral.Binary.ofDecimal f.negative (f.integral ++ f.fractional)
    (exponent - f.fractional.length)
  if x.isFinite then .ok x else .error (.here .badNumber start)

end Preflight.Toml
