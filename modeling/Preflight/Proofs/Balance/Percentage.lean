import Mathlib.Tactic.Ring
import Preflight.Balance

/-!
Percentages of amounts are exact. The three parts that a percentage is added up from are each at most
the whole, so the sum is refused only if the whole is no balance; the products that are not checked
are too small to wrap around.
-/

namespace Preflight.Balance

/-! ## 1. The parts of a product -/

/-- A hundredth of a product, from the hundreds and the rests of both factors. -/
theorem mul_div_hundred (v u : Nat) :
    v * u / 100 = u / 100 * v + u % 100 * (v / 100) + u % 100 * (v % 100) / 100 := by
  have hsplit : v * u =
      100 * (u / 100 * v + u % 100 * (v / 100)) + u % 100 * (v % 100) :=
    calc v * u = v * (100 * (u / 100) + u % 100) := by rw [Nat.div_add_mod]
      _ = 100 * (u / 100 * v) + u % 100 * v := by ring
      _ = 100 * (u / 100 * v) + u % 100 * (100 * (v / 100) + v % 100) := by rw [Nat.div_add_mod]
      _ = 100 * (u / 100 * v + u % 100 * (v / 100)) + u % 100 * (v % 100) := by ring
  rw [hsplit, Nat.mul_add_div (by decide)]

theorem rest_mul_hundreds_lt (v u : Balance) :
    u.units % 100 * (v.units / 100) < balanceBound := by
  have hrest : u.units % 100 ≤ 100 := Nat.le_of_lt (Nat.mod_lt _ (by decide))
  calc u.units % 100 * (v.units / 100) ≤ 100 * (v.units / 100) := Nat.mul_le_mul_right _ hrest
    _ ≤ v.units := Nat.mul_div_le v.units 100
    _ < balanceBound := v.units_lt

theorem rest_mul_rest_lt (v u : Balance) : u.units % 100 * (v.units % 100) < balanceBound := by
  have hu : u.units % 100 ≤ 100 := Nat.le_of_lt (Nat.mod_lt _ (by decide))
  have hv : v.units % 100 ≤ 100 := Nat.le_of_lt (Nat.mod_lt _ (by decide))
  exact Nat.lt_of_le_of_lt (Nat.mul_le_mul hu hv) (by decide)

theorem wordProduct_eq {n m : Nat} (h : n * m < balanceBound) : wordProduct n m = n * m :=
  Nat.mod_eq_of_lt h

/-! ## 2. Sums that are checked as they grow -/

-- A sum that has grown too large stays too large.
theorem ofNat?_bind_add (n m : Nat) :
    ((ofNat? n).bind fun b => ofNat? (b.units + m)) = ofNat? (n + m) := by
  cases h : ofNat? n with
  | none =>
    have hn := ofNat?_eq_none.mp h
    exact (ofNat?_eq_none.mpr (Nat.le_trans hn (Nat.le_add_right n m))).symm
  | some b =>
    rw [← ofNat?_eq_some.mp h]
    rfl

theorem percentOfUnit?_eq (value unit : Balance) :
    percentOfUnit? value unit = ofNat? (value.units * unit.units / 100) := by
  have hmore := wordProduct_eq (rest_mul_hundreds_lt value unit)
  have hlast := wordProduct_eq (rest_mul_rest_lt value unit)
  show ((ofNat? _).bind fun hundreds => (ofNat? _).bind fun more => ofNat? _) = _
  simp only [hmore, hlast, ofNat?_bind_add, Nat.add_assoc]
  rw [mul_div_hundred value.units unit.units, Nat.add_assoc]

theorem percentOfUnit_eq_ok_iff {value unit b : Balance} :
    percentOfUnit value unit = .ok b ↔ b.units = value.units * unit.units / 100 := by
  rw [percentOfUnit, percentOfUnit?_eq, ← ofNat?_eq_some]
  cases ofNat? (value.units * unit.units / 100) <;> simp

theorem percentOfUnit_eq_overflow_iff {value unit : Balance} :
    percentOfUnit value unit =
        .error (.overflow s!"{value.units}% of {unit.units} does not fit in a balance") ↔
      balanceBound ≤ value.units * unit.units / 100 := by
  rw [percentOfUnit, percentOfUnit?_eq, ← ofNat?_eq_none]
  cases ofNat? (value.units * unit.units / 100) <;> simp

/-- A percentage of an amount is the whole part of a hundredth of their product if that is a balance,
and is refused as an overflow otherwise. A percentage of one whole token is the same for `10 ^ 18`.
What is not checked on the way never wraps around. -/
theorem percentOfUnit_exact (value unit : Balance) :
    (∀ b, percentOfUnit value unit = .ok b ↔ b.units = value.units * unit.units / 100) ∧
    (percentOfUnit value unit =
        .error (.overflow s!"{value.units}% of {unit.units} does not fit in a balance") ↔
      balanceBound ≤ value.units * unit.units / 100) ∧
    unit.units % 100 * (value.units / 100) < balanceBound ∧
    unit.units % 100 * (value.units % 100) < balanceBound ∧
    (∀ b, percentOf value = .ok b ↔ b.units = value.units * 10 ^ 18 / 100) ∧
    (percentOf value =
        .error (.overflow s!"{value.units}% of {10 ^ 18} does not fit in a balance") ↔
      balanceBound ≤ value.units * 10 ^ 18 / 100) :=
  ⟨fun _ => percentOfUnit_eq_ok_iff, percentOfUnit_eq_overflow_iff, rest_mul_hundreds_lt value unit,
    rest_mul_rest_lt value unit, fun _ => percentOfUnit_eq_ok_iff, percentOfUnit_eq_overflow_iff⟩

end Preflight.Balance
