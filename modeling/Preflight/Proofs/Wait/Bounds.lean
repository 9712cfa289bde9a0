import Mathlib.Algebra.Order.Floor.Div
import Preflight.Proofs.Wait.Stages
import Preflight.Rehearsal.Transaction

/-!
A wait with a bound ends within it. A bound of the attempts ends it after that many checks. A timeout
ends it as well if the poll interval is not zero: no delay is shorter than the poll interval, except
the one that is cut off where the timeout is over, and behind that one there is a single check.
-/

namespace Preflight.Wait

variable {σ : Type}

namespace Schedule

variable {s : Schedule σ} {n : Nat}

/-! ## 1. Bounds of the schedule -/

theorem isLast_of_maxAttempts {m : UInt32} (hm : s.policy.maxAttempts = some m) :
    s.IsLast (max m.toNat 1 - 1) :=
  .inr (.inl ⟨m, hm, by omega⟩)

theorem begins_le_timeout {t : Duration} (ht : s.policy.timeout = some t) :
    s.begins n ≤ t.nanos := by
  cases n with
  | zero => exact Nat.zero_le _
  | succ n =>
    rw [begins_succ, clamp, ht]
    exact Nat.min_le_right _ _

theorem min_mul_pollInterval_le_begins {t : Duration} (ht : s.policy.timeout = some t) (n : Nat) :
    min (n * s.policy.pollInterval.nanos) t.nanos ≤ s.begins n := by
  have hround := s.clamp_mul_pollInterval_le_begins n
  rwa [clamp, ht] at hround

theorem isLast_of_timeout {t : Duration} (ht : s.policy.timeout = some t)
    (hp : 0 < s.policy.pollInterval.nanos) :
    s.IsLast (t.nanos ⌈/⌉ s.policy.pollInterval.nanos) := by
  have hround := min_mul_pollInterval_le_begins ht (t.nanos ⌈/⌉ s.policy.pollInterval.nanos)
  have hcheck := s.begins_le_ends (t.nanos ⌈/⌉ s.policy.pollInterval.nanos)
  have hceil : t.nanos ≤ t.nanos ⌈/⌉ s.policy.pollInterval.nanos * s.policy.pollInterval.nanos := by
    rw [Nat.mul_comm]
    exact le_smul_ceilDiv hp
  exact .inr (.inr ⟨t, ht, by omega⟩)

end Schedule

/-! ## 2. Bounds of runs -/

namespace Schedule

variable {s : Schedule σ}

-- The number of checks that a run may make need only exceed the first last check.
theorem run_of_isLast {n : Nat} (h : s.IsLast n) :
    ∃ outcome : Outcome σ, outcome.trace.checkTimes.length ≤ n + 1 ∧
      ∀ checks, n < checks → run checks (.live s.policy) none s.watch s.state = some outcome := by
  rcases exists_first_isLast h with ⟨k, hk, hreaches, hlast⟩
  refine ⟨s.outcome k, ?_, fun checks hchecks => ?_⟩
  · rw [s.checkTimes_outcome, List.length_map, List.length_range]
    omega
  · exact s.run_eq_some_iff.mpr ⟨k, by omega, hreaches, hlast, rfl⟩

theorem eq_outcome_of_run {checks : Nat} {outcome : Outcome σ}
    (h : run checks (.live s.policy) none s.watch s.state = some outcome) :
    ∃ k, s.IsLast k ∧ outcome = s.outcome k ∧ outcome.trace.checkTimes.length = k + 1 := by
  rcases s.run_eq_some_iff.mp h with ⟨k, -, -, hlast, rfl⟩
  refine ⟨k, hlast, rfl, ?_⟩
  rw [s.checkTimes_outcome, List.length_map, List.length_range]

theorem checkTime_le_timeout {t : Duration} (ht : s.policy.timeout = some t) (checks time : Nat)
    (h : time ∈ (s.stage none checks).trace.checkTimes) : time ≤ t.nanos := by
  have hbegins : ∃ n, s.begins n = time := by
    rcases s.stage_none_cases checks with ⟨-, hstage⟩ | ⟨k, -, -, -, hstage⟩
    · rw [hstage, Stage.trace, s.checkTimes_eventsBefore] at h
      rcases List.mem_map.mp h with ⟨n, -, hn⟩
      exact ⟨n, hn⟩
    · rw [hstage, Stage.trace, s.checkTimes_outcome] at h
      rcases List.mem_map.mp h with ⟨n, -, hn⟩
      exact ⟨n, hn⟩
  rcases hbegins with ⟨n, rfl⟩
  exact begins_le_timeout ht

theorem ends_le_timeout_add {t : Duration} (ht : s.policy.timeout = some t) (k : Nat) :
    s.ends k ≤ t.nanos + (s.check k).takes :=
  Nat.add_le_add_right (begins_le_timeout ht) _

-- A fault of the last check itself is passed on, so it has to be told from giving up.
theorem gaveUp_of_verdict {k attempts elapsed : Nat}
    (h : s.verdict k = .error (.timedOut attempts elapsed))
    (hown : (s.check k).reply ≠ .error (.timedOut attempts elapsed)) :
    (s.check k).reply = .ok false ∧ Schedule.attempts k = attempts ∧ s.ends k = elapsed := by
  unfold verdict at h
  cases hr : (s.check k).reply with
  | error fault =>
    rw [hr] at h hown
    injection h with hfault
    exact absurd (congrArg Except.error hfault) hown
  | ok final =>
    rw [hr] at h
    cases final with
    | true => cases h
    | false =>
      injection h with hfault
      injection hfault with hattempts helapsed
      exact ⟨rfl, hattempts, helapsed⟩

theorem ends_eq_timeout_or {t : Duration} {k : Nat} (ht : s.policy.timeout = some t)
    (hlast : s.IsLast k) (hreply : (s.check k).reply = .ok false)
    (htakes : (s.check k).takes = 0) :
    s.ends k ≤ t.nanos ∧ (s.ends k = t.nanos ∨ s.IsOutOfAttempts k) := by
  have hle := ends_le_timeout_add ht k
  rw [htakes] at hle
  refine ⟨hle, ?_⟩
  rcases isOut_of_isLast hlast hreply with hattempts | ⟨t', ht', hover⟩
  · exact .inr hattempts
  · rw [ht] at ht'
    cases ht'
    left
    omega

end Schedule

/-- The bounds of a live wait, whatever is checked and however long a check takes. A bound `m` of
the attempts ends it after at most `m` checks, or after one if `m` is zero. A timeout `t` ends it
after at most `t / p + 1` checks, rounded up, where `p` is the poll interval and not zero. With a
timeout `t`, no check begins later than `t`, and only the last check may end later. If checks take
no time and the wait gives up, which is not a fault that a check fails with, it does so no later
than at `t`, and earlier only because of the attempts. -/
theorem run_live_bounded (p : Policy) (watch : Watch σ) (state : σ) :
    let s : Schedule σ := ⟨p, watch, state⟩
    let waited := fun checks => run checks (.live p) none watch state
    (∀ m, p.maxAttempts = some m →
      ∃ outcome : Outcome σ, outcome.trace.checkTimes.length ≤ max m.toNat 1 ∧
        ∀ checks, max m.toNat 1 ≤ checks → waited checks = some outcome) ∧
    (∀ t, p.timeout = some t → 0 < p.pollInterval.nanos →
      ∃ outcome : Outcome σ,
        outcome.trace.checkTimes.length ≤ t.nanos ⌈/⌉ p.pollInterval.nanos + 1 ∧
        ∀ checks, t.nanos ⌈/⌉ p.pollInterval.nanos + 1 ≤ checks → waited checks = some outcome) ∧
    (∀ t, p.timeout = some t →
      (∀ checks, ∀ time ∈ (stage checks (.live p) none watch state).trace.checkTimes,
        time ≤ t.nanos) ∧
      ∀ checks outcome, waited checks = some outcome →
        let made := outcome.trace.checkTimes.length
        let last := s.check (made - 1)
        outcome.time ≤ t.nanos + last.takes ∧
        ∀ attempts elapsed, outcome.verdict = .error (.timedOut attempts elapsed) →
          last.reply ≠ .error (.timedOut attempts elapsed) →
          (∀ n < made, (s.check n).takes = 0) →
          elapsed ≤ t.nanos ∧
            (elapsed = t.nanos ∨ ∃ m, p.maxAttempts = some m ∧ m.toNat ≤ attempts)) := by
  intro s waited
  refine ⟨fun m hm => ?_, fun t ht hp => ?_, fun t ht => ⟨?_, ?_⟩⟩
  · have hlast : s.IsLast (max m.toNat 1 - 1) := Schedule.isLast_of_maxAttempts hm
    rcases Schedule.run_of_isLast hlast with ⟨outcome, hmade, hrun⟩
    exact ⟨outcome, by omega, fun checks hchecks => hrun checks (by omega)⟩
  · have hlast : s.IsLast (t.nanos ⌈/⌉ p.pollInterval.nanos) := Schedule.isLast_of_timeout ht hp
    rcases Schedule.run_of_isLast hlast with ⟨outcome, hmade, hrun⟩
    exact ⟨outcome, hmade, hrun⟩
  · exact Schedule.checkTime_le_timeout (s := s) ht
  · intro checks outcome hrun made last
    rcases Schedule.eq_outcome_of_run (s := s) hrun with ⟨k, hlast, houtcome, hmade⟩
    have hk : made - 1 = k := by
      show outcome.trace.checkTimes.length - 1 = k
      omega
    have hcheck : last = s.check k := congrArg s.check hk
    rw [hcheck]
    refine ⟨?_, fun attempts elapsed hverdict hown htakes => ?_⟩
    · rw [houtcome]
      exact Schedule.ends_le_timeout_add ht k
    · have hverdict' : s.verdict k = .error (.timedOut attempts elapsed) := by
        rw [← hverdict, houtcome]
        rfl
      rcases Schedule.gaveUp_of_verdict hverdict' hown with ⟨hreply, rfl, rfl⟩
      have hinstant : (s.check k).takes = 0 := htakes k (by omega)
      rcases Schedule.ends_eq_timeout_or ht hlast hreply hinstant with ⟨hle, hcause⟩
      refine ⟨hle, hcause.imp_right ?_⟩
      -- the reported attempts saturate, but not below a bound
      rintro ⟨m, hm, hbound⟩
      exact ⟨m, hm, (Schedule.toNat_le_attempts_iff m).mpr hbound⟩

/-! ## 3. Examples -/

/-- Delays of ten seconds with a factor of zero and a cap of one second, for twenty-five seconds. -/
def shortCapPolicy : Policy where
  pollInterval := .ofMillis 10000
  backoff := 0
  maxInterval := .ofMillis 1000
  maxAttempts := none
  timeout := some (.ofMillis 25000)

/-- Neither the factor nor the cap shortens a delay, and the fourth check is at the timeout. -/
theorem run_live_shortCapPolicy :
    0 < shortCapPolicy.pollInterval.nanos ∧
    ∃ outcome, run 4 (.live shortCapPolicy) none Rehearsal.Transaction.watch .neverFinalized
        = some outcome ∧
      outcome.trace.checkTimes.length ≤ 4 ∧
      outcome.trace.checkTimes = [0, 10000000000, 20000000000, 25000000000] ∧
      outcome.verdict = .error (.timedOut 4 25000000000) := by
  have hp : 0 < shortCapPolicy.pollInterval.nanos := by decide
  have hceil : Duration.nanos (.ofMillis 25000) ⌈/⌉ shortCapPolicy.pollInterval.nanos + 1 = 4 := by
    rfl
  rcases (run_live_bounded shortCapPolicy Rehearsal.Transaction.watch .neverFinalized).2.1 _ rfl hp
    with ⟨outcome, hmade, hrun⟩
  rw [hceil] at hmade hrun
  have hsome : run 4 (.live shortCapPolicy) none Rehearsal.Transaction.watch .neverFinalized
        = some outcome := hrun 4 (by omega)
  refine ⟨hp, outcome, hsome, hmade, ?_⟩
  change some _ = some outcome at hsome
  cases hsome
  exact ⟨by decide, rfl⟩

/-- Delays of one second, for one second. -/
def hurriedPolicy : Policy where
  pollInterval := .ofMillis 1000
  backoff := 1
  maxInterval := .ofMillis 1000
  maxAttempts := none
  timeout := some (.ofMillis 1000)

-- waits for something that itself gave up on a longer wait
def watchAbandoned : Watch Unit := fun _ _ => ({ reply := .error (.timedOut 7 5000000000) }, ())

/-- A check may fail with a time that is over the timeout of the wait: its fault is passed on. -/
theorem not_elapsed_le_timeout :
    ¬ ∀ (p : Policy) (watch : Watch Unit) (t : Duration) (checks : Nat) (outcome : Outcome Unit)
        (attempts elapsed : Nat),
      p.timeout = some t → (∀ state time, (watch state time).1.takes = 0) →
      run checks (.live p) none watch () = some outcome →
      outcome.verdict = .error (.timedOut attempts elapsed) → elapsed ≤ t.nanos := by
  intro hclaimed
  have hle := hclaimed hurriedPolicy watchAbandoned (.ofMillis 1000) 1 _ 7 5000000000
    rfl (fun _ _ => rfl) rfl rfl
  exact absurd hle (by decide)

end Preflight.Wait
