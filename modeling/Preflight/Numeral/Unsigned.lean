/-!
Unsigned decimal numerals with a bound: an optional plus sign and at least one ASCII digit, whose
value lies below the bound. Reading goes from left to right and stops at the first fault.
-/

namespace Preflight.Numeral

/-- Why a text is not a numeral below the bound. -/
inductive Fault where
  | empty
  | badDigit
  | tooLarge
  deriving DecidableEq, Repr

def Fault.message : Fault → String
  | .empty => "cannot parse integer from empty string"
  | .badDigit => "invalid digit found in string"
  | .tooLarge => "number too large to fit in target type"

def digit? (c : Char) : Option Nat :=
  if c.isDigit then some (c.toNat - 48) else none

-- reads further digits behind a value that was read so far
def readDigits (bound : Nat) (value : Nat) : List Char → Except Fault Nat
  | [] => .ok value
  | c :: cs =>
    match digit? c with
    | none => .error .badDigit
    | some d =>
      let next := value * 10 + d
      if next < bound then readDigits bound next cs else .error .tooLarge

/-- Reads an unsigned numeral whose value is below `bound`. A sign alone is no numeral. -/
def readUnsigned (bound : Nat) : List Char → Except Fault Nat
  | [] => .error .empty
  | ['+'] => .error .badDigit
  | '+' :: cs => readDigits bound 0 cs
  | cs => readDigits bound 0 cs

theorem readDigits_lt {bound value n : Nat} {cs : List Char} (hv : value < bound)
    (h : readDigits bound value cs = .ok n) : n < bound := by
  induction cs generalizing value with
  | nil => simp_all [readDigits]
  | cons c cs ih =>
    simp only [readDigits] at h
    split at h
    · simp at h
    · split at h
      · next hlt => exact ih hlt h
      · simp at h

theorem readUnsigned_lt {bound n : Nat} {cs : List Char} (hb : 0 < bound)
    (h : readUnsigned bound cs = .ok n) : n < bound := by
  unfold readUnsigned at h
  split at h
  · simp at h
  · simp at h
  · exact readDigits_lt hb h
  · exact readDigits_lt hb h

end Preflight.Numeral
