import Mathlib.Order.Bounds.Basic
import Preflight.Proofs.Wait.Stages
import Preflight.Rehearsal.Transaction

/-!
A wait that nobody calls off runs through its schedule up to the first last check and ends with it;
if no check is the last one it never ends. The main statement gives the times of all checks, the
verdict, the time of the end and every logged line, word for word.
-/

namespace Preflight.Wait

variable {σ : Type}

theorem Schedule.reaches_of_isLeast {s : Schedule σ} {k : Nat}
    (h : IsLeast {n | s.IsLast n} k) : s.Reaches k := by
  intro i hi hlast
  have hle : k ≤ i := h.2 hlast
  omega

/-- A live wait in closed form. Let check `n`, counted from zero, begin at `s.begins n` and end at
`s.ends n`, where `s.begins 0 = 0` and `s.begins (n + 1)` is `s.ends n + p.delayAfter n`, but no
later than the timeout. If `k` is the first check that is final, fails, is the last allowed attempt
or ends when the timeout is over, then exactly the checks up to `k` are made, at these times, and
the wait ends at `s.ends k`: well if check `k` is final, with its fault if it fails, and else with
the number of attempts and the time that were used up. Behind each check but the last one a line for
debugging announces the pause up to the next one; the last line says that it is final, or warns that
the wait gives up. -/
theorem run_live_eq_outcome (p : Policy) (watch : Watch σ) (state : σ) (checks : Nat) :
    let s : Schedule σ := ⟨p, watch, state⟩
    (∀ k, IsLeast {n | s.IsLast n} k →
      run checks (.live p) none watch state = (if k < checks then some (s.outcome k) else none) ∧
      (s.outcome k).trace.checkTimes = (List.range (k + 1)).map s.begins ∧
      (s.outcome k).trace.lines =
        (List.range k).map (fun n =>
          let pause := Nanos.text (s.begins (n + 1) - s.ends n)
          ⟨.debug, "pop_tx::finalization",
            s!"Transaction not finalized yet, polling again in {pause}"⟩) ++
        let made := min (k + 1) (2 ^ 32 - 1)
        let elapsed := Nanos.text (s.ends k)
        match (s.check k).reply with
        | .ok true =>
          [⟨.debug, "pop_tx::finalization", s!"Transaction finalized after {made} poll(s)"⟩]
        | .ok false =>
          [⟨.warn, "pop_tx::finalization",
            s!"Giving up on finalization after {made} poll(s) ({elapsed})"⟩]
        | .error _ => []) ∧
    ((∀ n, ¬ s.IsLast n) → run checks (.live p) none watch state = none) := by
  intro s
  have hrun : run checks (.live p) none watch state = (s.stage none checks).outcome? := rfl
  have hwaiting : s.Reaches checks → run checks (.live p) none watch state = none := by
    intro hreaches
    rw [hrun, s.stage_of_reaches none hreaches rfl]
    rfl
  refine ⟨fun k hk => ⟨?_, s.checkTimes_outcome k, ?_⟩, ?_⟩
  · have hreaches := Schedule.reaches_of_isLeast hk
    by_cases hchecks : k < checks
    · rw [if_pos hchecks, hrun, s.stage_of_isLast none hreaches hk.1 rfl hchecks]
      rfl
    · rw [if_neg hchecks]
      exact hwaiting (hreaches.mono (by omega))
  · rw [s.lines_outcome k, Schedule.closing]
    cases (s.check k).reply with
    | error fault => rfl
    | ok final => cases final <;> rfl
  · intro hnever
    exact hwaiting fun i _ => hnever i

/-! ## An example -/

/-- Delays of one second that double up to five seconds, and no bound. -/
def doublingPolicy : Policy where
  pollInterval := .ofMillis 1000
  backoff := 2
  maxInterval := .ofMillis 5000
  maxAttempts := none
  timeout := none

/-- Half a second each time to say that it is not final, and final at once at the fifth check. -/
def fifthTimeFinal : Rehearsal.Script :=
  List.replicate 4 ⟨.ok false, 500000000⟩ ++ [⟨.ok true, 0⟩]

/-- The delays are 1, 2, 4 and 5 seconds, each after half a second of checking. -/
theorem run_live_doublingPolicy :
    let s : Schedule _ := ⟨doublingPolicy, Rehearsal.Script.watch, fifthTimeFinal⟩
    IsLeast {n | s.IsLast n} 4 ∧
    run 5 (.live doublingPolicy) none s.watch s.state = some (s.outcome 4) ∧
    (s.outcome 4).verdict = .ok () ∧ (s.outcome 4).time = 14000000000 ∧
    (s.outcome 4).trace.checkTimes =
      [0, 1500000000, 4000000000, 8500000000, 14000000000] ∧
    (s.outcome 4).trace.lines =
      [⟨.debug, "pop_tx::finalization", "Transaction not finalized yet, polling again in 1s"⟩,
        ⟨.debug, "pop_tx::finalization", "Transaction not finalized yet, polling again in 2s"⟩,
        ⟨.debug, "pop_tx::finalization", "Transaction not finalized yet, polling again in 4s"⟩,
        ⟨.debug, "pop_tx::finalization", "Transaction not finalized yet, polling again in 5s"⟩,
        ⟨.debug, "pop_tx::finalization", "Transaction finalized after 5 poll(s)"⟩] := by
  intro s
  have hreaches : s.Reaches 4 := by decide
  have hk : IsLeast {n | s.IsLast n} 4 := by
    refine ⟨show s.IsLast 4 by decide, ?_⟩
    intro i hi
    by_contra hlt
    exact hreaches i (by omega) hi
  rcases (run_live_eq_outcome doublingPolicy Rehearsal.Script.watch fifthTimeFinal 5).1 4 hk with
    ⟨hrun, htimes, hlines⟩
  refine ⟨hk, ?_, rfl, by decide, ?_, ?_⟩
  · rw [hrun, if_pos (by decide)]
  · rw [htimes]
    decide
  · rw [hlines]
    decide +kernel

end Preflight.Wait
