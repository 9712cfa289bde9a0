import Mathlib.Algebra.BigOperators.Intervals
import Mathlib.Algebra.Order.BigOperators.Group.Finset
import Preflight.Proofs.Wait.Bounds

/-!
How long a wait is asleep. Its time is spent in checks and in the pauses between them, and no pause
is longer than the longest delay, so a bound of the attempts bounds the time that is spent asleep,
whatever is checked and however long the checks take.
-/

namespace Preflight.Wait

namespace Schedule

variable {σ : Type} {s : Schedule σ}

theorem pause_le (n : Nat) :
    s.pause n ≤ max s.policy.pollInterval.nanos s.policy.maxInterval.nanos := by
  have hdelay := s.policy.delayAfter_le n
  rw [Nat.max_comm] at hdelay
  unfold pause
  cases s.policy.timeout with
  | none => exact hdelay
  | some t => exact Nat.le_trans (Nat.min_le_left _ _) hdelay

/-- Up to the end of a check that the wait comes to, all time is spent in checks and in the pauses
between them. -/
theorem ends_eq_sum {n : Nat} (h : s.Reaches n) :
    s.ends n = ∑ i ∈ Finset.range (n + 1), (s.check i).takes + ∑ i ∈ Finset.range n, s.pause i := by
  induction n with
  | zero => simp [ends]
  | succ n ih =>
    obtain ⟨hbefore, hn⟩ := (s.reaches_succ_iff n).mp h
    rw [ends, begins_succ_of_not_isLast hn, ih hbefore, Finset.sum_range_succ _ (n + 1),
      Finset.sum_range_succ s.pause n]
    omega

theorem sum_pause_le (n : Nat) : ∑ i ∈ Finset.range n, s.pause i ≤
    n * max s.policy.pollInterval.nanos s.policy.maxInterval.nanos := by
  have hsum := Finset.sum_le_card_nsmul (Finset.range n) s.pause _ fun i _ => s.pause_le i
  rwa [Finset.card_range, smul_eq_mul] at hsum

end Schedule

/-- With a bound of the attempts a wait ends. What it takes beyond its checks it is asleep, which is
no more than the longest delay between each two of as many checks as there may be. -/
theorem exists_outcome_of_maxAttempts {σ : Type} (s : Schedule σ) {m : UInt32}
    (hm : s.policy.maxAttempts = some m) :
    ∃ (outcome : Outcome σ) (asleep : Nat),
      (∀ checks, max m.toNat 1 ≤ checks →
        run checks (.live s.policy) none s.watch s.state = some outcome) ∧
      outcome.trace.checkTimes.length ≤ max m.toNat 1 ∧
      outcome.time = ∑ n ∈ Finset.range outcome.trace.checkTimes.length, (s.check n).takes
        + asleep ∧
      asleep ≤ (max m.toNat 1 - 1) *
        max s.policy.pollInterval.nanos s.policy.maxInterval.nanos := by
  have hlast : s.IsLast (max m.toNat 1 - 1) := Schedule.isLast_of_maxAttempts hm
  obtain ⟨k, hk, hreaches, hfirst⟩ := Schedule.exists_first_isLast hlast
  have hmade : (s.outcome k).trace.checkTimes.length = k + 1 := by
    rw [s.checkTimes_outcome, List.length_map, List.length_range]
  refine ⟨s.outcome k, ∑ i ∈ Finset.range k, s.pause i, ?_, ?_, ?_, ?_⟩
  · intro checks hchecks
    have hkn : k < checks := by omega
    exact s.run_eq_some_iff.mpr ⟨k, hkn, hreaches, hfirst, rfl⟩
  · omega
  · rw [hmade]
    exact Schedule.ends_eq_sum hreaches
  · exact Nat.le_trans (Schedule.sum_pause_le k) (Nat.mul_le_mul_right _ hk)

end Preflight.Wait
