import Preflight.Fault
import Preflight.Numeral.Unsigned
import Preflight.Text.Blank

/-!
Balances: amounts in the smallest denomination, below `2 ^ 128`. A percentage of an amount is cut
to a whole number, and is refused only if it is no balance.
-/

namespace Preflight

def balanceBound : Nat := Nat.pow 2 128

/-- An amount in the smallest denomination. -/
@[ext] structure Balance where
  units : Nat
  units_lt : units < balanceBound
  deriving DecidableEq, Repr

namespace Balance

-- a number as a balance, if it is small enough
def ofNat? (n : Nat) : Option Balance :=
  if h : n < balanceBound then some ⟨n, h⟩ else none

-- one whole token, `10 ^ 18` of the smallest denomination
def oneUnit : Balance := ⟨Nat.pow 10 18, by decide⟩

theorem ofNat?_eq_some {n : Nat} {b : Balance} : ofNat? n = some b ↔ b.units = n := by
  unfold ofNat?
  split
  · next h =>
    constructor
    · intro e
      cases e
      rfl
    · rintro rfl
      rfl
  · next h =>
    constructor
    · intro e
      cases e
    · rintro rfl
      exact absurd b.units_lt h

theorem ofNat?_eq_none {n : Nat} : ofNat? n = none ↔ balanceBound ≤ n := by
  unfold ofNat?
  split <;> simp <;> omega

/-! ## 1. Percentages -/

/-- A product in a word of `128` bits, of which nothing says whether it fits. -/
def wordProduct (n m : Nat) : Nat := n * m % balanceBound

/-- A percentage of an amount: `value` percent of `unit`, without any remainder. The hundreds of
`unit` and the rest of it are taken apart, so that no intermediate amount exceeds a result that is a
balance. The products with the rest are not checked. -/
def percentOfUnit? (value unit : Balance) : Option Balance := do
  let rest := unit.units % 100
  let hundreds ← ofNat? (unit.units / 100 * value.units)
  let more ← ofNat? (hundreds.units + wordProduct rest (value.units / 100))
  ofNat? (more.units + wordProduct rest (value.units % 100) / 100)

def percentOfUnit (value unit : Balance) : Except Fault Balance :=
  match percentOfUnit? value unit with
  | some amount => .ok amount
  | none =>
    .error (.overflow s!"{value.units}% of {unit.units} does not fit in a balance")

def percentOf (value : Balance) : Except Fault Balance :=
  percentOfUnit value oneUnit

/-! ## 2. Reading -/

/-- The numeral in a text: blanks around it are cut off first, then every underscore is removed. -/
def numeralOf (cs : List Char) : List Char :=
  (Text.trim cs).filter (· != '_')

def readNumeral (cs : List Char) : Except Numeral.Fault Balance :=
  match h : Numeral.readUnsigned balanceBound cs with
  | .ok n => .ok ⟨n, Numeral.readUnsigned_lt (by decide) h⟩
  | .error e => .error e

def parse (s : String) : Except Fault Balance :=
  match readNumeral (numeralOf s.toList) with
  | .ok b => .ok b
  | .error e => .error (.balance s!"{s}: {e.message}")

end Balance

end Preflight
