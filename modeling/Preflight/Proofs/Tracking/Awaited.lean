import Mathlib.Order.Bounds.Basic
import Preflight.Proofs.Tracking.Feed
import Preflight.Proofs.Wait.Bounds

/-!
Waiting for a call that a listener follows. The updates come whenever they come, and the checks go
by the schedule of the wait. A wait never returns a verdict that the call has not reached, and it
notices a call that becomes terminal at the next check, which is less than one delay away.
-/

namespace Preflight.Feed

open Wait

variable (f : Feed) (start : Nat) (p : Policy)

/-! ## 1. Checks of a call -/

/-- The schedule of a wait for the call that starts at a time. -/
def awaiting : Schedule Unit := ⟨p, f.watchFrom start, ()⟩

/-- The status that check `n` of a wait finds. -/
def statusFound (n : Nat) : Status := f.statusAt (start + (f.awaiting start p).begins n)

theorem reply_awaiting (n : Nat) :
    ((f.awaiting start p).check n).reply = (f.statusFound start p n).reply := rfl

theorem ends_awaiting (n : Nat) : (f.awaiting start p).ends n = (f.awaiting start p).begins n := rfl

theorem isDecided_awaiting_iff (n : Nat) :
    (f.awaiting start p).IsDecided n ↔ (f.statusFound start p n).isTerminal = true := by
  rw [Schedule.IsDecided, reply_awaiting]
  cases f.statusFound start p n <;> simp [Status.reply, Status.isTerminal]

theorem verdict_awaiting (n : Nat) :
    (f.awaiting start p).verdict n =
      match f.statusFound start p n with
      | .finalized => .ok ()
      | .failed reason => .error (.transaction reason)
      | _ => .error (.timedOut (Schedule.attempts n) ((f.awaiting start p).begins n)) := by
  unfold Schedule.verdict
  rw [reply_awaiting, ends_awaiting]
  cases f.statusFound start p n <;> rfl

theorem verdict_awaiting_eq_ok_iff (n : Nat) :
    (f.awaiting start p).verdict n = .ok () ↔ f.statusFound start p n = .finalized := by
  rw [verdict_awaiting]
  cases f.statusFound start p n <;> simp

theorem verdict_awaiting_eq_transaction_iff (n : Nat) (reason : String) :
    (f.awaiting start p).verdict n = .error (.transaction reason) ↔
      f.statusFound start p n = .failed reason := by
  rw [verdict_awaiting]
  cases f.statusFound start p n <;> simp

theorem verdict_awaiting_timedOut_iff (n : Nat) :
    (∃ attempts elapsed, (f.awaiting start p).verdict n = .error (.timedOut attempts elapsed)) ↔
      (f.statusFound start p n).isTerminal = false := by
  rw [verdict_awaiting]
  cases f.statusFound start p n <;> simp [Status.isTerminal]

-- Only a terminal status makes the verdict depend on nothing else.
theorem verdict_awaiting_congr {start' : Nat} {p' : Policy} {n n' : Nat}
    (h : (f.statusFound start p n).isTerminal = true)
    (hsame : f.statusFound start' p' n' = f.statusFound start p n) :
    (f.awaiting start' p').verdict n' = (f.awaiting start p).verdict n := by
  rw [verdict_awaiting, verdict_awaiting, hsame]
  cases hfound : f.statusFound start p n with
  | pending => rw [hfound] at h; cases h
  | inBlock => rw [hfound] at h; cases h
  | finalized => rfl
  | failed reason => rfl

/-! ## 2. The first check behind the decision -/

section

variable {f start p} {τ k : Nat}

theorem exists_first_begins_ge (hp : 0 < p.pollInterval.nanos)
    (ht : ∀ t, p.timeout = some t → τ < t.nanos) :
    ∃ k, IsLeast {n | τ ≤ (f.awaiting start p).begins n} k := by
  have hlong : τ ≤ (f.awaiting start p).begins τ := by
    have hround := (f.awaiting start p).clamp_mul_pollInterval_le_begins τ
    have hmul : τ ≤ τ * p.pollInterval.nanos := Nat.le_mul_of_pos_right τ hp
    change Schedule.clamp p (τ * p.pollInterval.nanos) ≤ _ at hround
    unfold Schedule.clamp at hround
    cases hlimit : p.timeout with
    | none =>
      simp only [hlimit] at hround
      omega
    | some t =>
      have hbefore := ht t hlimit
      simp only [hlimit] at hround
      omega
  have hex : ∃ n, τ ≤ (f.awaiting start p).begins n := ⟨τ, hlong⟩
  exact ⟨Nat.find hex, Nat.find_spec hex, fun n hn => Nat.find_min' hex hn⟩

theorem begins_lt_of_isLeast (hk : IsLeast {n | τ ≤ (f.awaiting start p).begins n} k) {n : Nat}
    (hn : n < k) : (f.awaiting start p).begins n < τ := by
  by_contra hge
  have hle : k ≤ n := hk.2 (show τ ≤ (f.awaiting start p).begins n by omega)
  omega

-- Before the call is terminal no check decides, and no bound is used up.
theorem reaches_of_isLeast (hk : IsLeast {n | τ ≤ (f.awaiting start p).begins n} k)
    (hτ : ∀ before < τ, (f.statusAt (start + before)).isTerminal = false)
    (hm : p.maxAttempts = none) (ht : ∀ t, p.timeout = some t → τ < t.nanos) :
    (f.awaiting start p).Reaches k := by
  intro n hn hlast
  have hbefore := begins_lt_of_isLeast hk hn
  rcases hlast with hdecided | ⟨m, hbound, -⟩ | ⟨t, hlimit, hover⟩
  · rw [isDecided_awaiting_iff, statusFound, hτ _ hbefore] at hdecided
    cases hdecided
  · change p.maxAttempts = some m at hbound
    rw [hm] at hbound
    cases hbound
  · have hlate := ht t hlimit
    rw [ends_awaiting] at hover
    omega

theorem begins_lt_add (hk : IsLeast {n | τ ≤ (f.awaiting start p).begins n} k) (hτ : 0 < τ) :
    (f.awaiting start p).begins k < τ + max p.pollInterval.nanos p.maxInterval.nanos := by
  cases k with
  | zero =>
    have hzero : τ ≤ 0 := hk.1
    omega
  | succ k =>
    have hbefore := begins_lt_of_isLeast hk (Nat.lt_succ_self k)
    have hnext := (f.awaiting start p).begins_succ_le k
    have hdelay : (f.awaiting start p).policy.delayAfter k
        ≤ max p.maxInterval.nanos p.pollInterval.nanos := p.delayAfter_le k
    rw [ends_awaiting] at hnext
    omega

end

/-! ## 3. How a wait for a call ends -/

section

variable {f start p} {k : Nat}

theorem getLast?_checkTimes_awaiting (k : Nat) :
    ((f.awaiting start p).outcome k).trace.checkTimes.getLast?
      = some ((f.awaiting start p).outcome k).time := by
  rw [Schedule.checkTimes_outcome, List.range_succ, List.map_append, List.map_singleton,
    List.getLast?_concat]
  rfl

-- A call that was terminal once is decided for every later wait, at its first check.
theorem run_of_isTerminal {later more : Nat} (q : Policy)
    (h : (f.statusAt later).isTerminal = true) (hmore : 0 < more) :
    run more (.live q) none (f.watchFrom later) () = some ((f.awaiting later q).outcome 0) := by
  have hfirst : (f.awaiting later q).Reaches 0 := fun n hn => absurd hn (Nat.not_lt_zero n)
  have hlast : (f.awaiting later q).IsLast 0 :=
    .inl ((f.isDecided_awaiting_iff later q 0).mpr h)
  exact (f.awaiting later q).run_eq_some_iff.mpr ⟨0, hmore, hfirst, hlast, rfl⟩

end

/-- A live wait for a call, started at any time under any policy, beside the time `τ` after which the
call becomes terminal. Without a bound of the attempts, and with no timeout up to `τ`, the wait ends
with its first check from `τ` on, with the verdict of the terminal status, at once if the call was
terminal already, and else less than one longest delay behind `τ`, but never later than the timeout.
Under all bounds it ends well only if the call is finalized then, with the fault of the call only if
the call failed then, and gives up only if its last check found the call not terminal. Behind a wait
that was decided the status stays the same, and every later live wait ends with the same verdict at
its first check. -/
theorem await_iff_terminal :
    (∀ τ, IsLeast {τ | (f.statusAt (start + τ)).isTerminal = true} τ →
      0 < p.pollInterval.nanos → p.maxAttempts = none →
      (∀ t, p.timeout = some t → τ < t.nanos) →
      ∃ outcome : Outcome Unit,
        let times := outcome.trace.checkTimes
        let status := f.statusAt (start + τ)
        (∀ checks, times.length ≤ checks →
          run checks (.live p) none (f.watchFrom start) () = some outcome) ∧
        (∀ time ∈ times.dropLast, time < τ) ∧
        times.getLast? = some outcome.time ∧ τ ≤ outcome.time ∧
        (status = .finalized → outcome.verdict = .ok ()) ∧
        (∀ reason, status = .failed reason → outcome.verdict = .error (.transaction reason)) ∧
        (τ = 0 → outcome.time = 0) ∧
        (0 < τ → outcome.time < τ + max p.pollInterval.nanos p.maxInterval.nanos) ∧
        ∀ t, p.timeout = some t → outcome.time ≤ t.nanos) ∧
    (∀ checks outcome, run checks (.live p) none (f.watchFrom start) () = some outcome →
      let status := f.statusAt (start + outcome.time)
      outcome.trace.checkTimes.getLast? = some outcome.time ∧
      (outcome.verdict = .ok () → status = .finalized) ∧
      (∀ reason, outcome.verdict = .error (.transaction reason) → status = .failed reason) ∧
      (∀ attempts elapsed, outcome.verdict = .error (.timedOut attempts elapsed) →
        status.isTerminal = false) ∧
      ((∀ attempts elapsed, outcome.verdict ≠ .error (.timedOut attempts elapsed)) →
        ∀ later, start + outcome.time ≤ later →
          f.statusAt later = status ∧
          ∀ q more, 0 < more →
            ∃ again, run more (.live q) none (f.watchFrom later) () = some again ∧
              again.verdict = outcome.verdict ∧ again.time = 0 ∧
              again.trace.checkTimes = [0])) := by
  refine ⟨fun τ hτ hp hm ht => ?_, fun checks outcome hrun => ?_⟩
  · have hopen : ∀ before < τ, (f.statusAt (start + before)).isTerminal = false := by
      intro before hbefore
      by_contra hterminal
      have hle : τ ≤ before := hτ.2 (by simpa using hterminal)
      omega
    have hbegins : ∃ k, IsLeast {n | τ ≤ (f.awaiting start p).begins n} k :=
      exists_first_begins_ge hp ht
    rcases hbegins with ⟨k, hk⟩
    have hreaches := reaches_of_isLeast hk hopen hm ht
    -- the call is still what it became at `τ` when check `k` looks at it
    have hfound : f.statusFound start p k = f.statusAt (start + τ) :=
      f.statusAt_of_isTerminal hτ.1 (Nat.add_le_add_left hk.1 start)
    have hlast : (f.awaiting start p).IsLast k := by
      refine .inl ((f.isDecided_awaiting_iff start p k).mpr ?_)
      rw [hfound]
      exact hτ.1
    have htimes := (f.awaiting start p).checkTimes_outcome k
    refine ⟨(f.awaiting start p).outcome k, ?_, ?_, getLast?_checkTimes_awaiting k, hk.1, ?_, ?_,
      ?_, ?_, ?_⟩
    · intro checks hchecks
      rw [htimes, List.length_map, List.length_range] at hchecks
      exact (f.awaiting start p).run_eq_some_iff.mpr ⟨k, hchecks, hreaches, hlast, rfl⟩
    · intro time htime
      rw [htimes, List.range_succ, List.map_append, List.map_singleton, List.dropLast_concat]
        at htime
      rcases List.mem_map.mp htime with ⟨n, hn, rfl⟩
      exact begins_lt_of_isLeast hk (List.mem_range.mp hn)
    · intro hstatus
      exact (f.verdict_awaiting_eq_ok_iff start p k).mpr (hfound.trans hstatus)
    · intro reason hstatus
      exact (f.verdict_awaiting_eq_transaction_iff start p k reason).mpr (hfound.trans hstatus)
    · intro hzero
      have hfirst : k ≤ 0 := hk.2 (show τ ≤ 0 by omega)
      rw [Nat.le_zero.mp hfirst]
      rfl
    · exact begins_lt_add hk
    · intro t hlimit
      exact Schedule.begins_le_timeout (s := f.awaiting start p) hlimit
  · rcases (f.awaiting start p).run_eq_some_iff.mp hrun with ⟨k, -, -, -, rfl⟩
    refine ⟨getLast?_checkTimes_awaiting k, (f.verdict_awaiting_eq_ok_iff start p k).mp,
      fun reason => (f.verdict_awaiting_eq_transaction_iff start p k reason).mp, ?_, ?_⟩
    · intro attempts elapsed hgaveUp
      exact (f.verdict_awaiting_timedOut_iff start p k).mp ⟨attempts, elapsed, hgaveUp⟩
    · intro hdecided later hlater
      have hterminal : (f.statusFound start p k).isTerminal = true := by
        by_contra hopen
        have hopen' := Bool.eq_false_iff.mpr hopen
        rcases (f.verdict_awaiting_timedOut_iff start p k).mpr hopen' with ⟨a, e, hgaveUp⟩
        exact hdecided a e hgaveUp
      have hsame : f.statusAt later = f.statusFound start p k :=
        f.statusAt_of_isTerminal hterminal hlater
      refine ⟨hsame, fun q more hmore => ?_⟩
      have hlater' : (f.statusAt later).isTerminal = true := by
        rw [hsame]
        exact hterminal
      exact ⟨_, run_of_isTerminal q hlater' hmore, f.verdict_awaiting_congr start p hterminal hsame,
        rfl, (f.awaiting later q).checkTimes_outcome 0⟩

/-! ## 4. An example -/

/-- In a block after one second, and finalized after fifteen. -/
def fifteenSeconds : Timeline where
  updates := [(1000000000, .inBlock), (14000000000, .finalized)]

/-- Ten seconds between checks, for eighteen seconds. -/
def eighteenSeconds : Policy where
  pollInterval := .ofMillis 10000
  maxAttempts := none
  timeout := some (.ofMillis 18000)

theorem isTerminal_fifteenSeconds_iff (now : Nat) :
    (fifteenSeconds.statusAt now).isTerminal = true ↔ 15000000000 ≤ now := by
  have hnotices : fifteenSeconds.notices =
      [(1000000000, .update .inBlock), (15000000000, .update .finalized),
        (15000000000, .ended)] := rfl
  rw [Timeline.statusAt, Timeline.trackerAt, hnotices]
  by_cases hblock : 1000000000 ≤ now
  · by_cases hfinal : 15000000000 ≤ now
    · simp only [List.filter, hblock, hfinal, decide_true]
      exact iff_of_true rfl trivial
    · simp only [List.filter, hblock, hfinal, decide_true, decide_false]
      exact iff_of_false Bool.false_ne_true id
  · have hfinal : ¬ 15000000000 ≤ now := by omega
    simp only [List.filter, hblock, hfinal, decide_false]
    exact iff_of_false Bool.false_ne_true id

/-- Started two seconds after the call was sent, the wait makes its last check when the timeout is
over, and finds the call finalized five seconds before. -/
theorem await_fifteenSeconds :
    let f := fifteenSeconds.feed "0x01"
    IsLeast {τ | (f.statusAt (2000000000 + τ)).isTerminal = true} 13000000000 ∧
    0 < eighteenSeconds.pollInterval.nanos ∧ eighteenSeconds.maxAttempts = none ∧
    (∀ t, eighteenSeconds.timeout = some t → 13000000000 < t.nanos) ∧
    (∃ outcome : Outcome Unit,
      (∀ checks, outcome.trace.checkTimes.length ≤ checks →
        run checks (.live eighteenSeconds) none (fifteenSeconds.watchFrom 2000000000) ()
          = some outcome) ∧
      outcome.verdict = .ok () ∧ 13000000000 ≤ outcome.time ∧ outcome.time ≤ 18000000000) ∧
    ∃ outcome : Outcome Unit,
      run 3 (.live eighteenSeconds) none (fifteenSeconds.watchFrom 2000000000) ()
        = some outcome ∧
      outcome.verdict = .ok () ∧ outcome.trace.checkTimes = [0, 10000000000, 18000000000] ∧
      f.statusAt (2000000000 + outcome.time) = .finalized ∧
      f.statusAt 60000000000 = .finalized := by
  intro f
  have hterminal : ∀ now, (f.statusAt now).isTerminal = true ↔ 15000000000 ≤ now := by
    intro now
    rw [Timeline.statusAt_feed]
    exact isTerminal_fifteenSeconds_iff now
  have hτ : IsLeast {τ | (f.statusAt (2000000000 + τ)).isTerminal = true} 13000000000 := by
    refine ⟨(hterminal _).mpr (by omega), fun τ h => ?_⟩
    have hlate := (hterminal _).mp h
    omega
  have hp : 0 < eighteenSeconds.pollInterval.nanos := by decide
  have ht : ∀ t, eighteenSeconds.timeout = some t → 13000000000 < t.nanos := by
    intro t h
    cases h
    decide
  have hfinal : f.statusAt (2000000000 + 13000000000) = .finalized := by
    rw [Timeline.statusAt_feed]
    decide
  rcases await_iff_terminal f 2000000000 eighteenSeconds with ⟨hnoticed, hright⟩
  rw [Timeline.watchFrom_feed] at hnoticed hright
  refine ⟨hτ, hp, rfl, ht, ?_, ?_⟩
  · rcases hnoticed _ hτ hp rfl ht with ⟨outcome, hrun, -, -, hlate, hok, -, -, -, hlimit⟩
    exact ⟨outcome, hrun, hok hfinal, hlate, hlimit _ rfl⟩
  · have hrun : ∃ outcome, run 3 (.live eighteenSeconds) none
        (fifteenSeconds.watchFrom 2000000000) () = some outcome ∧ outcome.verdict = .ok () ∧
        outcome.time = 18000000000 ∧
        outcome.trace.checkTimes = [0, 10000000000, 18000000000] :=
      ⟨_, rfl, rfl, rfl, rfl⟩
    rcases hrun with ⟨outcome, hrun, hverdict, htime, htimes⟩
    rcases hright 3 outcome hrun with ⟨-, hok, -, -, hstays⟩
    have hdecided : ∀ attempts elapsed,
        outcome.verdict ≠ .error (.timedOut attempts elapsed) := by
      intro attempts elapsed h
      rw [hverdict] at h
      cases h
    have hlater := (hstays hdecided 60000000000 (by omega)).1
    exact ⟨outcome, hrun, hverdict, htimes, hok hverdict, hlater.trans (hok hverdict)⟩

end Preflight.Feed
