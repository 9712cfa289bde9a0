import Preflight.Proofs.Wait.Schedule

/-!
The stages of a wait, read off its schedule. As long as no check was the last one and the wait is
not called off by the next check, it stands before that check with the events so far behind it. The
last check ends the wait with the outcome of the schedule, and so does a cancellation before the
next check, with an outcome of its own.
-/

namespace Preflight.Wait

variable {σ : Type} (p : Policy) (cancel : Option Nat) (watch : Watch σ)

/-! ## 1. Steps -/

@[simp] theorem steps_ended (n : Nat) (outcome : Outcome σ) :
    steps p cancel watch n (.ended outcome) = .ended outcome := by
  cases n <;> rfl

theorem steps_succ (n : Nat) (stage : Stage σ) :
    steps p cancel watch (n + 1) stage = step p cancel watch (steps p cancel watch n stage) := by
  induction n generalizing stage with
  | zero => cases stage <;> rfl
  | succ n ih =>
    cases stage with
    | ended outcome => rw [steps_ended, steps_ended, step]
    | waiting pos trace state => exact ih (step p cancel watch (.waiting pos trace state))

/-! ## 2. Turns of a schedule -/

namespace Schedule

variable (s : Schedule σ) {n : Nat}

def positionAt (n : Nat) : Position :=
  ⟨s.begins n, min n maxAttemptCount, s.policy.intervalAfter s.policy.pollInterval n⟩

theorem positionAt_succ (n : Nat) :
    s.positionAt (n + 1) =
      ⟨s.begins (n + 1), attempts n, s.policy.nextInterval (s.positionAt n).interval⟩ := by
  rw [positionAt, Policy.intervalAfter_succ]
  rfl

-- A bound of the attempts is a word, so it is reached before the count saturates.
theorem toNat_le_attempts_iff (m : UInt32) : m.toNat ≤ attempts n ↔ m.toNat ≤ n + 1 := by
  have hm := m.toNat_lt
  rw [attempts]
  omega

theorem isExhausted_iff :
    isExhausted s.policy (attempts n) (s.ends n) = true ↔
      s.IsOutOfAttempts n ∨ s.IsOutOfTime n := by
  rw [isExhausted, Bool.or_eq_true, IsOutOfAttempts, IsOutOfTime]
  apply or_congr
  · cases s.policy.maxAttempts with
    | none => simp
    | some m => simpa using toNat_le_attempts_iff m
  · cases s.policy.timeout with
    | none => simp
    | some t => simp

theorem delay_eq_pause (n : Nat) :
    delay s.policy (s.positionAt n).interval (s.ends n) = s.pause n := by
  have hinterval : (s.positionAt n).interval.nanos = s.policy.delayAfter n :=
    s.policy.nanos_intervalAfter_pollInterval n
  unfold delay pause
  cases s.policy.timeout with
  | none => exact hinterval
  | some t =>
    show min (s.positionAt n).interval.nanos (t.nanos - s.ends n)
      = min (s.policy.delayAfter n) (t.nanos - s.ends n)
    rw [hinterval]

def turnAt (n : Nat) : Turn × List Log.Entry :=
  turn s.policy cancel (s.positionAt n).interval (attempts n) (s.ends n) (s.check n).reply

theorem turnAt_of_isLast (h : s.IsLast n) :
    s.turnAt cancel n = (.over (s.verdict n) (s.ends n), s.closing n) := by
  unfold turnAt verdict closing
  cases hr : (s.check n).reply with
  | error fault => rfl
  | ok final =>
    cases final with
    | true => rfl
    | false =>
      have hbound : isExhausted s.policy (attempts n) (s.ends n) = true :=
        s.isExhausted_iff.mpr (isOut_of_isLast h hr)
      rw [turn, if_pos hbound]

theorem turnAt_of_not_isLast (h : ¬ s.IsLast n) :
    s.turnAt cancel n =
      (match cancel with
        | none => .again (s.begins (n + 1))
        | some c =>
          if c < s.begins (n + 1) then .over (.error .cancelled) (max c (s.ends n))
          else .again (s.begins (n + 1)),
        [s.goingOn n]) := by
  have hreply : (s.check n).reply = .ok false :=
    reply_of_not_isDecided fun hdecided => h (.inl hdecided)
  have hbound : ¬ isExhausted s.policy (attempts n) (s.ends n) = true :=
    fun hout => h (.inr (s.isExhausted_iff.mp hout))
  have hnext := begins_succ_of_not_isLast h
  have hline : s.goingOn n = pollingAgainLine (s.pause n) := by
    rw [goingOn, hnext, Nat.add_sub_cancel_left]
  rw [turnAt, hreply, turn, if_neg hbound, delay_eq_pause, hline, hnext]
  cases cancel with
  | none => rfl
  | some c =>
    by_cases hc : c < s.ends n + s.pause n
    · simp only [hc, if_true]
    · simp only [hc, if_false]

/-! ## 3. Stages of a schedule -/

/-- How far a wait comes that makes at most `n` checks. -/
def stage (n : Nat) : Stage σ :=
  Wait.stage n (.live s.policy) cancel s.watch s.state

theorem stage_zero : s.stage cancel 0 = arrive cancel (s.positionAt 0) (s.eventsBefore 0) s.state :=
  rfl

theorem stage_succ (n : Nat) :
    s.stage cancel (n + 1) = step s.policy cancel s.watch (s.stage cancel n) :=
  steps_succ s.policy cancel s.watch n _

theorem stage_of_ended {m : Nat} {outcome : Outcome σ} (h : s.stage cancel m = .ended outcome)
    (hmn : m ≤ n) : s.stage cancel n = .ended outcome := by
  induction n, hmn using Nat.le_induction with
  | base => exact h
  | succ n hmn ih => rw [stage_succ, ih, step]

theorem step_positionAt (n : Nat) :
    step s.policy cancel s.watch (.waiting (s.positionAt n) (s.eventsBefore n) (s.stateAt n)) =
      match (s.turnAt cancel n).1 with
      | .over verdict ended =>
        .ended ⟨verdict, ended, s.eventsBefore n ++ s.eventsOf n (s.turnAt cancel n).2,
          s.stateAt (n + 1)⟩
      | .again begins =>
        arrive cancel ⟨begins, attempts n, s.policy.nextInterval (s.positionAt n).interval⟩
          (s.eventsBefore n ++ s.eventsOf n (s.turnAt cancel n).2) (s.stateAt (n + 1)) := by
  have hattempts : min ((s.positionAt n).attempts + 1) maxAttemptCount = attempts n := by
    show min (min n (2 ^ 32 - 1) + 1) (2 ^ 32 - 1) = min (n + 1) (2 ^ 32 - 1)
    omega
  rw [step, hattempts]
  rfl

theorem isCancelled_eq_false_of_le {time before : Nat} (h : isCancelled cancel time = false)
    (hle : before ≤ time) : isCancelled cancel before = false := by
  cases cancel with
  | none => rfl
  | some c =>
    have hc : ¬ c ≤ time := of_decide_eq_false h
    exact decide_eq_false (by omega)

-- The invariant of a run: a wait that is not called off yet stands before the check it comes to.
theorem stage_of_reaches (h : s.Reaches n) (hc : isCancelled cancel (s.begins n) = false) :
    s.stage cancel n = .waiting (s.positionAt n) (s.eventsBefore n) (s.stateAt n) := by
  induction n with
  | zero =>
    have hstart : isCancelled cancel (s.positionAt 0).time = false := hc
    rw [stage_zero, arrive, hstart]
    rfl
  | succ n ih =>
    rcases (s.reaches_succ_iff n).mp h with ⟨hbefore, hn⟩
    have horder : s.begins n ≤ s.begins (n + 1) := begins_le_begins h (Nat.le_succ n)
    -- the cancellation comes behind the next beginning, so it does not end the pause
    have hagain : s.turnAt cancel n = (.again (s.begins (n + 1)), [s.goingOn n]) := by
      rw [s.turnAt_of_not_isLast cancel hn]
      cases cancel with
      | none => rfl
      | some c =>
        have hlate : ¬ c ≤ s.begins (n + 1) := of_decide_eq_false hc
        simp only [show ¬ c < s.begins (n + 1) by omega, if_false]
    rw [stage_succ, ih hbefore (isCancelled_eq_false_of_le cancel hc horder), step_positionAt,
      hagain]
    show arrive cancel ⟨s.begins (n + 1), attempts n, _⟩ _ _ = _
    rw [arrive, hc, ← eventsBefore_succ, ← positionAt_succ]
    rfl

-- This holds whenever the wait is called off after the last check began.
theorem stage_of_isLast {k : Nat} (h : s.Reaches k) (hk : s.IsLast k)
    (hc : isCancelled cancel (s.begins k) = false) (hn : k < n) :
    s.stage cancel n = .ended (s.outcome k) := by
  have hended : s.stage cancel (k + 1) = .ended (s.outcome k) := by
    rw [stage_succ, s.stage_of_reaches cancel h hc, step_positionAt, s.turnAt_of_isLast cancel hk]
    rfl
  exact s.stage_of_ended cancel hended hn

theorem stage_none_cases (n : Nat) :
    (s.Reaches n ∧
      s.stage none n = .waiting (s.positionAt n) (s.eventsBefore n) (s.stateAt n)) ∨
    ∃ k < n, s.Reaches k ∧ s.IsLast k ∧ s.stage none n = .ended (s.outcome k) := by
  by_cases h : s.Reaches n
  · exact .inl ⟨h, s.stage_of_reaches none h rfl⟩
  · rw [Reaches] at h
    push Not at h
    rcases h with ⟨i, hi, hlast⟩
    rcases exists_first_isLast hlast with ⟨k, hk, hreaches, hfirst⟩
    have hkn : k < n := by omega
    exact .inr ⟨k, hkn, hreaches, hfirst, s.stage_of_isLast none hreaches hfirst rfl hkn⟩

/-- A wait that nobody calls off ends with the first last check, if it may make that many checks. -/
theorem run_eq_some_iff {outcome : Outcome σ} :
    run n (.live s.policy) none s.watch s.state = some outcome ↔
      ∃ k < n, s.Reaches k ∧ s.IsLast k ∧ s.outcome k = outcome := by
  show (s.stage none n).outcome? = some outcome ↔ _
  constructor
  · intro h
    rcases s.stage_none_cases n with ⟨-, hstage⟩ | ⟨k, hk, hreaches, hlast, hstage⟩
    · rw [hstage] at h
      cases h
    · rw [hstage] at h
      cases h
      exact ⟨k, hk, hreaches, hlast, rfl⟩
  · rintro ⟨k, hk, hreaches, hlast, rfl⟩
    rw [s.stage_of_isLast none hreaches hlast rfl hk]
    rfl

/-- How the wait ends if it is called off at `c`, between the beginnings of checks `k` and `k + 1`.
A check that is under way is not interrupted. -/
def cancelledAfter (c k : Nat) : Outcome σ where
  verdict := .error .cancelled
  time := max c (s.ends k)
  trace := s.eventsBefore (k + 1)
  state := s.stateAt (k + 1)

theorem stage_of_cancelled {c k : Nat} (h : s.Reaches (k + 1)) (hbegan : s.begins k < c)
    (hc : c < s.begins (k + 1)) (hn : k < n) :
    s.stage (some c) n = .ended (s.cancelledAfter c k) := by
  rcases (s.reaches_succ_iff k).mp h with ⟨hbefore, hk⟩
  have hwaiting : isCancelled (some c) (s.begins k) = false := decide_eq_false (by omega)
  have hended : s.stage (some c) (k + 1) = .ended (s.cancelledAfter c k) := by
    rw [stage_succ, s.stage_of_reaches (some c) hbefore hwaiting, step_positionAt,
      s.turnAt_of_not_isLast (some c) hk]
    simp only [hc, if_true, ← eventsBefore_succ]
    rfl
  exact s.stage_of_ended (some c) hended hn

end Schedule

end Preflight.Wait
