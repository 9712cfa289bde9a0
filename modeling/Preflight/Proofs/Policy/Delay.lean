import Mathlib.Algebra.Order.Ring.Nat
import Mathlib.Tactic.Ring
import Preflight.Policy

/-!
The delays of a policy in closed form. Each step multiplies, stops at the largest duration and then
at the cap; the delay after any number of steps is nevertheless the exact power of the factor, cut
off once at the cap, since the cap is itself a duration and a cut-off delay stays at the cap.
-/

namespace Preflight.Policy

/-! ## 1. Steps -/

theorem one_le_factor (p : Policy) : 1 ≤ p.factor := Nat.le_max_right _ _

theorem nanos_cap (p : Policy) : p.cap.nanos = max p.maxInterval.nanos p.pollInterval.nanos :=
  Duration.nanos_max _ _

theorem pollInterval_le_cap (p : Policy) : p.pollInterval.nanos ≤ p.cap.nanos := by
  rw [nanos_cap]
  exact Nat.le_max_right _ _

-- The largest duration does not show in a step, because the cap is no longer than it.
theorem nanos_nextInterval (p : Policy) (current : Duration) :
    (p.nextInterval current).nanos = min (current.nanos * p.factor) p.cap.nanos := by
  have hcap := p.cap.nanos_le
  rw [nextInterval, Duration.nanos_min, Duration.nanos_times]
  omega

theorem intervalAfter_eq_iterate (p : Policy) (current : Duration) (n : Nat) :
    p.intervalAfter current n = p.nextInterval^[n] current := by
  induction n generalizing current with
  | zero => rfl
  | succ n ih => exact ih (p.nextInterval current)

theorem intervalAfter_succ (p : Policy) (current : Duration) (n : Nat) :
    p.intervalAfter current (n + 1) = p.nextInterval (p.intervalAfter current n) := by
  induction n generalizing current with
  | zero => rfl
  | succ n ih => exact ih (p.nextInterval current)

/-! ## 2. The closed form -/

-- A delay that was cut off at the cap is cut off there again after the next step.
theorem min_mul_factor (p : Policy) (a : Nat) :
    min (min a p.cap.nanos * p.factor) p.cap.nanos = min (a * p.factor) p.cap.nanos := by
  have hfactor := p.one_le_factor
  by_cases h : a ≤ p.cap.nanos
  · rw [Nat.min_eq_left h]
  · have hcap : p.cap.nanos ≤ p.cap.nanos * p.factor := Nat.le_mul_of_pos_right _ hfactor
    have ha : a ≤ a * p.factor := Nat.le_mul_of_pos_right _ hfactor
    have hcut : min a p.cap.nanos = p.cap.nanos := Nat.min_eq_right (by omega)
    rw [hcut, Nat.min_eq_right hcap, Nat.min_eq_right (by omega)]

theorem nanos_intervalAfter_succ (p : Policy) (current : Duration) (n : Nat) :
    (p.intervalAfter current (n + 1)).nanos
      = min (current.nanos * p.factor ^ (n + 1)) p.cap.nanos := by
  induction n with
  | zero => rw [intervalAfter_succ, nanos_nextInterval, intervalAfter, pow_one]
  | succ n ih =>
    rw [intervalAfter_succ, nanos_nextInterval, ih, min_mul_factor, mul_assoc, ← pow_succ]

/-- The delay of a wait after check number `n`, in exact arithmetic: the poll interval grown `n`
times, cut off at the cap. -/
def delayAfter (p : Policy) (n : Nat) : Nat :=
  min (p.pollInterval.nanos * p.factor ^ n) (max p.maxInterval.nanos p.pollInterval.nanos)

theorem nanos_intervalAfter_pollInterval (p : Policy) (n : Nat) :
    (p.intervalAfter p.pollInterval n).nanos = p.delayAfter n := by
  rw [delayAfter, ← nanos_cap]
  cases n with
  | zero =>
    rw [intervalAfter, pow_zero, mul_one, Nat.min_eq_left p.pollInterval_le_cap]
  | succ n => exact p.nanos_intervalAfter_succ p.pollInterval n

theorem pollInterval_le_delayAfter (p : Policy) (n : Nat) :
    p.pollInterval.nanos ≤ p.delayAfter n := by
  have hgrown : p.pollInterval.nanos ≤ p.pollInterval.nanos * p.factor ^ n :=
    Nat.le_mul_of_pos_right _ (Nat.pow_pos p.one_le_factor)
  rw [delayAfter]
  omega

theorem delayAfter_le (p : Policy) (n : Nat) :
    p.delayAfter n ≤ max p.maxInterval.nanos p.pollInterval.nanos :=
  Nat.min_le_right _ _

theorem monotone_delayAfter (p : Policy) : Monotone p.delayAfter := by
  apply monotone_nat_of_le_succ
  intro n
  have hgrown : p.pollInterval.nanos * p.factor ^ n ≤ p.pollInterval.nanos * p.factor ^ (n + 1) :=
    Nat.mul_le_mul_left _ (Nat.pow_le_pow_right p.one_le_factor (Nat.le_succ n))
  rw [delayAfter, delayAfter]
  omega

theorem delayAfter_zero (p : Policy) : p.delayAfter 0 = p.pollInterval.nanos := by
  rw [delayAfter, pow_zero, mul_one]
  exact Nat.min_eq_left (Nat.le_max_right _ _)

/-- A delay at the cap is followed by delays at the cap only. -/
theorem delayAfter_eq_cap {p : Policy} {m n : Nat}
    (h : p.delayAfter m = max p.maxInterval.nanos p.pollInterval.nanos) (hmn : m ≤ n) :
    p.delayAfter n = max p.maxInterval.nanos p.pollInterval.nanos :=
  le_antisymm (p.delayAfter_le n) (h ▸ p.monotone_delayAfter hmn)

end Preflight.Policy
