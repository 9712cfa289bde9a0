import Mathlib.Data.List.Range
import Preflight.Proofs.Wait.Stages
import Preflight.Rehearsal.Transaction

/-!
A wait that is called off is a truncation of the wait that is not: up to the time of the cancellation
both do the same, a check that is under way then is not interrupted and may still decide the wait or
use up a bound, and otherwise nothing follows.
-/

namespace Preflight.Wait

variable {σ : Type}

namespace Schedule

variable {s : Schedule σ} {c k n : Nat}

/-! ## 1. The checks before a time -/

-- The first check begins at zero, so a time before some check lies behind another one.
theorem exists_begins_lt (hne : ∀ i ≤ n, c ≠ s.begins i) (h : c < s.begins n) :
    ∃ k < n, s.begins k < c ∧ c < s.begins (k + 1) := by
  induction n with
  | zero =>
    rw [begins_zero] at h
    omega
  | succ n ih =>
    by_cases hn : c < s.begins n
    · rcases ih (fun i hi => hne i (by omega)) hn with ⟨k, hk, hgap⟩
      exact ⟨k, by omega, hgap⟩
    · have hnc := hne n (Nat.le_succ n)
      exact ⟨n, Nat.lt_succ_self n, by omega, h⟩

theorem filter_begins_lt {m : Nat} (hm : ∀ i < m, s.Reaches i) (hk : k < m)
    (hbegan : s.begins k < c) (hc : c < s.begins (k + 1)) :
    ((List.range m).map s.begins).filter (· < c) = (List.range (k + 1)).map s.begins := by
  have hkm : m = k + 1 + (m - (k + 1)) := by omega
  rw [hkm, List.range_add, List.map_append, List.filter_append]
  have hbefore : ((List.range (k + 1)).map s.begins).filter (· < c)
      = (List.range (k + 1)).map s.begins := by
    apply List.filter_eq_self.mpr
    intro time htime
    rcases List.mem_map.mp htime with ⟨i, hi, rfl⟩
    have hik : i < k + 1 := List.mem_range.mp hi
    have horder := begins_le_begins (hm k hk) (show i ≤ k by omega)
    exact decide_eq_true (by omega)
  have hbehind : (((List.range (m - (k + 1))).map (k + 1 + ·)).map s.begins).filter (· < c)
      = [] := by
    apply List.filter_eq_nil_iff.mpr
    intro time htime
    rcases List.mem_map.mp htime with ⟨i, hi, rfl⟩
    rcases List.mem_map.mp hi with ⟨j, hj, rfl⟩
    have hjm : j < m - (k + 1) := List.mem_range.mp hj
    have horder := begins_le_begins (hm (k + 1 + j) (by omega)) (show k + 1 ≤ k + 1 + j by omega)
    rw [decide_eq_true_eq]
    omega
  rw [hbefore, hbehind, List.append_nil]

theorem eventsBefore_mono (h : k ≤ n) : s.eventsBefore k <+: s.eventsBefore n := by
  induction n, h using Nat.le_induction with
  | base => exact List.prefix_rfl
  | succ n hkn ih =>
    rw [eventsBefore_succ]
    exact ih.trans (List.prefix_append _ _)

-- Without a poll interval time may stand still; with one every round takes some.
theorem le_begins (hp : 0 < s.policy.pollInterval.nanos) (h : s.Reaches n) : n ≤ s.begins n := by
  induction n with
  | zero => exact Nat.zero_le _
  | succ n ih =>
    rcases (s.reaches_succ_iff n).mp h with ⟨hbefore, hn⟩
    have hround := ih hbefore
    have hcheck := s.begins_le_ends n
    have hpause := pause_pos hn hp
    rw [begins_succ_of_not_isLast hn]
    omega

/-! ## 2. The two waits -/

/-- What is left of a wait that would come to the stage `full`, if it is called off at `c` between
two checks or in a check that is not the last one. -/
def IsCutOff (s : Schedule σ) (c : Nat) (full : Stage σ) (outcome : Outcome σ) : Prop :=
  outcome.verdict = .error .cancelled ∧
  outcome.trace.checkTimes = full.trace.checkTimes.filter (· < c) ∧
  outcome.time = max c (s.ends (outcome.trace.checkTimes.length - 1)) ∧
  outcome.trace <+: full.trace ∧
  outcome.trace.lines <+: full.trace.lines

theorem isCutOff_cancelledAfter {m : Nat} {full : Stage σ} (hm : ∀ i < m, s.Reaches i)
    (hk : k < m) (hbegan : s.begins k < c) (hc : c < s.begins (k + 1))
    (htimes : full.trace.checkTimes = (List.range m).map s.begins)
    (hevents : s.eventsBefore (k + 1) <+: full.trace) :
    s.IsCutOff c full (s.cancelledAfter c k) := by
  have hchecks : (s.cancelledAfter c k).trace.checkTimes = (List.range (k + 1)).map s.begins :=
    s.checkTimes_eventsBefore (k + 1)
  refine ⟨rfl, ?_, ?_, hevents, Trace.lines_mono hevents⟩
  · rw [hchecks, htimes, filter_begins_lt hm hk hbegan hc]
  · rw [hchecks, List.length_map, List.length_range, Nat.add_sub_cancel]
    rfl

-- Called off before a check that it would come to, a wait ends behind an earlier one.
theorem stage_of_lt_begins {j checks : Nat} (hne : ∀ n, s.Reaches n → c ≠ s.begins n)
    (hj : s.Reaches j) (hc : c < s.begins j) (hchecks : j ≤ checks) :
    ∃ k < j, s.begins k < c ∧ c < s.begins (k + 1) ∧
      s.stage (some c) checks = .ended (s.cancelledAfter c k) := by
  have hother : ∀ i ≤ j, c ≠ s.begins i := fun i hi => hne i (hj.mono hi)
  rcases exists_begins_lt hother hc with ⟨k, hk, hbegan, hgap⟩
  have hkc : k < checks := by omega
  exact ⟨k, hk, hbegan, hgap, s.stage_of_cancelled (hj.mono hk) hbegan hgap hkc⟩

theorem stage_cut (hne : ∀ n, s.Reaches n → c ≠ s.begins n) (checks : Nat)
    (hc : c < (s.stage none checks).time)
    (hgoing : (s.stage none checks).outcome? = none ∨
      ∃ time ∈ (s.stage none checks).trace.checkTimes, c < time) :
    ∃ outcome, s.stage (some c) checks = .ended outcome ∧
      s.IsCutOff c (s.stage none checks) outcome := by
  rcases s.stage_none_cases checks with ⟨hreaches, hstage⟩ | ⟨j, hj, hreaches, hlast, hstage⟩
  · rw [hstage] at hc ⊢
    rcases stage_of_lt_begins hne hreaches hc (Nat.le_refl checks) with
      ⟨k, hk, hbegan, hgap, hcut⟩
    refine ⟨_, hcut, ?_⟩
    exact isCutOff_cancelledAfter (fun i hi => hreaches.mono (by omega)) hk hbegan hgap
      (s.checkTimes_eventsBefore checks) (eventsBefore_mono hk)
  · rw [hstage] at hgoing ⊢
    have htimes : (s.outcome j).trace.checkTimes = (List.range (j + 1)).map s.begins :=
      s.checkTimes_outcome j
    -- the wait has ended, so `c` lies before a check that it made
    have hbefore : c < s.begins j := by
      rcases hgoing with hnone | ⟨time, htime, hlate⟩
      · cases hnone
      · rw [Stage.trace, htimes] at htime
        rcases List.mem_map.mp htime with ⟨i, hi, rfl⟩
        have hij : i < j + 1 := List.mem_range.mp hi
        have horder := begins_le_begins hreaches (show i ≤ j by omega)
        omega
    have hjc : j ≤ checks := by omega
    rcases stage_of_lt_begins hne hreaches hbefore hjc with ⟨k, hk, hbegan, hgap, hcut⟩
    refine ⟨_, hcut, ?_⟩
    exact isCutOff_cancelledAfter (fun i hi => hreaches.mono (by omega)) (by omega) hbegan hgap
      htimes ((eventsBefore_mono hk).trans (List.prefix_append _ _))

theorem stage_same (checks : Nat)
    (hc : (s.stage none checks).time < c ∨
      (s.stage none checks).outcome? ≠ none ∧
        ∀ time ∈ (s.stage none checks).trace.checkTimes, time < c) :
    s.stage (some c) checks = s.stage none checks := by
  rcases s.stage_none_cases checks with ⟨hreaches, hstage⟩ | ⟨k, hk, hreaches, hlast, hstage⟩
  · rw [hstage] at hc ⊢
    have hbegins : s.begins checks < c := by
      rcases hc with hbefore | ⟨hended, -⟩
      · exact hbefore
      · exact absurd rfl hended
    exact s.stage_of_reaches (some c) hreaches (decide_eq_false (by omega))
  · rw [hstage] at hc ⊢
    have hbegins : s.begins k < c := by
      rcases hc with hbefore | ⟨-, hall⟩
      · have hcheck := s.begins_le_ends k
        have hends : s.ends k < c := hbefore
        omega
      · apply hall
        rw [Stage.trace, s.checkTimes_outcome]
        exact List.mem_map_of_mem (List.mem_range.mpr (Nat.lt_succ_self k))
    exact s.stage_of_isLast (some c) hreaches hlast (decide_eq_false (by omega)) hk

-- With a poll interval the clock passes `c` within `c + 1` rounds.
theorem ended_of_pollInterval (hne : ∀ n, s.Reaches n → c ≠ s.begins n)
    (hp : 0 < s.policy.pollInterval.nanos) :
    (s.stage (some c) (c + 1)).outcome? ≠ none := by
  have hended : ∃ outcome, s.stage (some c) (c + 1) = .ended outcome := by
    rcases s.stage_none_cases (c + 1) with ⟨hreaches, -⟩ | ⟨j, hj, hreaches, hlast, -⟩
    · have hpassed := le_begins hp hreaches
      have hbefore : c < s.begins (c + 1) := by omega
      rcases stage_of_lt_begins hne hreaches hbefore (Nat.le_refl (c + 1)) with ⟨k, -, -, -, hcut⟩
      exact ⟨_, hcut⟩
    · by_cases hc : s.begins j < c
      · exact ⟨_, s.stage_of_isLast (some c) hreaches hlast (decide_eq_false (by omega)) hj⟩
      · have hnc := hne j hreaches
        have hbefore : c < s.begins j := by omega
        have hjc : j ≤ c + 1 := by omega
        rcases stage_of_lt_begins hne hreaches hbefore hjc with ⟨k, -, -, -, hcut⟩
        exact ⟨_, hcut⟩
  rcases hended with ⟨outcome, hcut⟩
  rw [hcut]
  exact Option.some_ne_none outcome

end Schedule

/-- Calling a live wait off at `c` truncates it, where `c` is not the time at which a check begins;
it may be the time at which one ends. Take how far the wait comes that nobody calls off, for any
number of checks. Up to `c` the other wait comes just as far; so it does if the first one ended and
its last check began before `c`. If the first wait goes on behind `c`, the other one is cut off: it
is cancelled, it made the checks that begin before `c`, it ended at `c` or with its last check,
whichever is later, and what it did and logged are the first things that the first one did and
logged. With a poll interval it always ends. A wait that is called off before it starts makes no
check, and under a test configuration neither does any. -/
theorem cancelled_truncates (p : Policy) (watch : Watch σ) (state : σ) :
    let s : Schedule σ := ⟨p, watch, state⟩
    (∀ c, (∀ n, s.Reaches n → c ≠ s.begins n) →
      (∀ checks,
        let full := stage checks (.live p) none watch state
        let cut := stage checks (.live p) (some c) watch state
        (full.time < c → cut = full) ∧
        (full.outcome? ≠ none → (∀ time ∈ full.trace.checkTimes, time < c) → cut = full) ∧
        (c < full.time → full.outcome? = none ∨ (∃ time ∈ full.trace.checkTimes, c < time) →
          ∃ outcome, cut = .ended outcome ∧
            outcome.verdict = .error .cancelled ∧
            outcome.trace.checkTimes = full.trace.checkTimes.filter (· < c) ∧
            outcome.time = max c (s.ends (outcome.trace.checkTimes.length - 1)) ∧
            outcome.trace <+: full.trace ∧
            outcome.trace.lines <+: full.trace.lines)) ∧
      (0 < p.pollInterval.nanos → run (c + 1) (.live p) (some c) watch state ≠ none)) ∧
    (∀ checks, run checks (.live p) (some 0) watch state
      = some ⟨.error .cancelled, 0, [], state⟩) ∧
    (∀ checks config cancel, config.mode = .test →
      run checks config cancel watch state
        = some ⟨.ok (), 0, [⟨0, .line testModeLine⟩], state⟩) := by
  intro s
  refine ⟨fun c hc => ⟨fun checks => ⟨?_, ?_, ?_⟩, ?_⟩, ?_, ?_⟩
  · intro htime
    exact Schedule.stage_same (s := s) checks (.inl htime)
  · intro hended hall
    exact Schedule.stage_same (s := s) checks (.inr ⟨hended, hall⟩)
  · exact Schedule.stage_cut (s := s) hc checks
  · exact Schedule.ended_of_pollInterval (s := s) hc
  · intro checks
    show (steps p (some 0) watch checks (.ended _)).outcome? = _
    rw [steps_ended]
    rfl
  · intro checks config cancel hmode
    have htest : config.isTest = true := decide_eq_true hmode
    rw [run, stage, if_pos htest]
    rfl

/-! ## 3. An example -/

/-- Ten seconds between checks, and no bound. -/
def tenSeconds : Policy := .unbounded (.ofMillis 10000)

theorem begins_tenSeconds (n : Nat) :
    (Schedule.mk tenSeconds Rehearsal.Transaction.watch .neverFinalized).begins n
      = n * 10000000000 := by
  induction n with
  | zero => rfl
  | succ n ih =>
    have hpoll : tenSeconds.pollInterval.nanos = 10000000000 := by decide
    have hmax : tenSeconds.maxInterval.nanos = 10000000000 := by decide
    have hfactor : tenSeconds.factor = 1 := by decide
    have hclamp : ∀ time, Schedule.clamp tenSeconds time = time := fun _ => rfl
    have htakes : ((Schedule.mk tenSeconds Rehearsal.Transaction.watch .neverFinalized).check
        n).takes = 0 := rfl
    rw [Schedule.begins_succ, hclamp, Schedule.ends, htakes, ih, Policy.delayAfter, hpoll, hmax,
      hfactor, Nat.one_pow]
    omega

/-- Called off in the second pause, the wait made two checks and did not wait for the third. -/
theorem cancelled_truncates_tenSeconds :
    let s : Schedule _ := ⟨tenSeconds, Rehearsal.Transaction.watch, .neverFinalized⟩
    (∀ n, s.Reaches n → 15000000000 ≠ s.begins n) ∧
    ∃ outcome, stage 3 (.live tenSeconds) (some 15000000000) s.watch s.state = .ended outcome ∧
      outcome.verdict = .error .cancelled ∧
      outcome.trace.checkTimes = [0, 10000000000] ∧ outcome.time = 15000000000 := by
  intro s
  have hne : ∀ n, s.Reaches n → 15000000000 ≠ s.begins n := by
    intro n _
    rw [begins_tenSeconds]
    omega
  rcases ((cancelled_truncates tenSeconds Rehearsal.Transaction.watch .neverFinalized).1
      15000000000 hne).1 3 |>.2.2 (by decide) (.inl rfl) with
    ⟨outcome, hcut, hverdict, htimes, hend, -⟩
  have hmade : outcome.trace.checkTimes = [0, 10000000000] := htimes.trans (by decide)
  refine ⟨hne, outcome, hcut, hverdict, hmade, ?_⟩
  rw [hend, hmade]
  decide

end Preflight.Wait
