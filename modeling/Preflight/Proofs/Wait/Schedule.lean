import Mathlib.Order.Basic
import Preflight.Proofs.Policy.Delay
import Preflight.Wait

/-!
The schedule of a wait that nobody calls off: when each check begins and ends, and which check is
the last one. It is given check by check in exact arithmetic, with no attempt counter, no running
delay and no saturation. The checks behind the last one are part of the schedule too, but the wait
never comes to them.
-/

namespace Preflight.Wait

/-- A policy, what is checked, and the state that it is in when the wait begins. -/
structure Schedule (σ : Type) where
  policy : Policy
  watch : Watch σ
  state : σ

namespace Schedule

variable {σ : Type}

/-! ## 1. Times -/

def clamp (p : Policy) (time : Nat) : Nat :=
  match p.timeout with
  | none => time
  | some t => min time t.nanos

/-- The time at which check `n` begins, counted from zero, and the state that it finds. -/
def entry (s : Schedule σ) : Nat → Nat × σ
  | 0 => (0, s.state)
  | n + 1 =>
    let before := s.entry n
    let seen := s.watch before.2 before.1
    (clamp s.policy (before.1 + seen.1.takes + s.policy.delayAfter n), seen.2)

def begins (s : Schedule σ) (n : Nat) : Nat := (s.entry n).1

-- the state that check `n` finds
def stateAt (s : Schedule σ) (n : Nat) : σ := (s.entry n).2

def check (s : Schedule σ) (n : Nat) : Check := (s.watch (s.stateAt n) (s.begins n)).1

def ends (s : Schedule σ) (n : Nat) : Nat := s.begins n + (s.check n).takes

@[simp] theorem begins_zero (s : Schedule σ) : s.begins 0 = 0 := rfl

theorem begins_succ (s : Schedule σ) (n : Nat) :
    s.begins (n + 1) = clamp s.policy (s.ends n + s.policy.delayAfter n) := rfl

theorem begins_succ_le (s : Schedule σ) (n : Nat) :
    s.begins (n + 1) ≤ s.ends n + s.policy.delayAfter n := by
  rw [begins_succ]
  unfold clamp
  cases s.policy.timeout with
  | none => exact Nat.le_refl _
  | some t => exact Nat.min_le_left _ _

theorem stateAt_succ (s : Schedule σ) (n : Nat) :
    s.stateAt (n + 1) = (s.watch (s.stateAt n) (s.begins n)).2 := rfl

theorem begins_le_ends (s : Schedule σ) (n : Nat) : s.begins n ≤ s.ends n := Nat.le_add_right _ _

/-- A source whose checks are given in advance. -/
def inOrder (checks : Nat → Check) : Watch Nat := fun n _ => (checks n, n + 1)

-- So a statement about every source is one about every sequence of checks.
theorem check_inOrder (p : Policy) (checks : Nat → Check) (n : Nat) :
    (Schedule.mk p (inOrder checks) 0).check n = checks n := by
  have hstate : (Schedule.mk p (inOrder checks) 0).stateAt n = n := by
    induction n with
    | zero => rfl
    | succ n ih => rw [stateAt_succ, ih]; rfl
  rw [check, hstate]
  rfl

/-! ## 2. The last check -/

/-- Check `n` says that it is final, or fails. -/
def IsDecided (s : Schedule σ) (n : Nat) : Prop :=
  (s.check n).reply = .ok true ∨ ∃ fault, (s.check n).reply = .error fault

/-- Check `n` is as many checks as there may be. -/
def IsOutOfAttempts (s : Schedule σ) (n : Nat) : Prop :=
  ∃ m, s.policy.maxAttempts = some m ∧ m.toNat ≤ n + 1

/-- The timeout is over when check `n` ends. -/
def IsOutOfTime (s : Schedule σ) (n : Nat) : Prop :=
  ∃ t, s.policy.timeout = some t ∧ t.nanos ≤ s.ends n

/-- Nothing is checked behind check `n`. -/
def IsLast (s : Schedule σ) (n : Nat) : Prop :=
  s.IsDecided n ∨ s.IsOutOfAttempts n ∨ s.IsOutOfTime n

-- The wait comes to check `n`: no earlier one is the last.
def Reaches (s : Schedule σ) (n : Nat) : Prop := ∀ i < n, ¬ s.IsLast i

theorem Reaches.mono {s : Schedule σ} {m n : Nat} (h : s.Reaches n) (hmn : m ≤ n) :
    s.Reaches m :=
  fun i hi => h i (Nat.lt_of_lt_of_le hi hmn)

theorem reaches_succ_iff (s : Schedule σ) (n : Nat) :
    s.Reaches (n + 1) ↔ s.Reaches n ∧ ¬ s.IsLast n := by
  constructor
  · intro h
    exact ⟨h.mono (Nat.le_succ n), h n (Nat.lt_succ_self n)⟩
  · rintro ⟨h, hn⟩ i hi
    by_cases hin : i = n
    · rwa [hin]
    · exact h i (by omega)

-- Where some check is the last one, the wait comes to a first such check.
theorem exists_first_isLast {s : Schedule σ} {n : Nat} (h : s.IsLast n) :
    ∃ k ≤ n, s.Reaches k ∧ s.IsLast k := by
  induction n using Nat.strong_induction_on with
  | _ n ih =>
    by_cases hreaches : s.Reaches n
    · exact ⟨n, Nat.le_refl n, hreaches, h⟩
    · rw [Reaches] at hreaches
      push Not at hreaches
      rcases hreaches with ⟨i, hi, hlast⟩
      rcases ih i hi hlast with ⟨k, hk, hfirst⟩
      have hkn : k ≤ n := by omega
      exact ⟨k, hkn, hfirst⟩

theorem reply_of_not_isDecided {s : Schedule σ} {n : Nat} (h : ¬ s.IsDecided n) :
    (s.check n).reply = .ok false := by
  unfold IsDecided at h
  rw [not_or] at h
  cases hr : (s.check n).reply with
  | error fault => exact absurd ⟨fault, hr⟩ h.2
  | ok final =>
    cases final with
    | true => exact absurd hr h.1
    | false => rfl

-- A reply that decides nothing is the last one only if a bound is used up.
theorem isOut_of_isLast {s : Schedule σ} {n : Nat} (h : s.IsLast n)
    (hreply : (s.check n).reply = .ok false) : s.IsOutOfAttempts n ∨ s.IsOutOfTime n := by
  rcases h with hdecided | hout
  · -- a final reply and a fault are both different from this one
    rcases hdecided with hfinal | ⟨fault, herror⟩
    · rw [hreply] at hfinal
      cases hfinal
    · rw [hreply] at herror
      cases herror
  · exact hout

instance (s : Schedule σ) (n : Nat) : Decidable (s.IsDecided n) :=
  match hr : (s.check n).reply with
  | .ok true => isTrue (.inl hr)
  | .error fault => isTrue (.inr ⟨fault, hr⟩)
  | .ok false => isFalse (by rw [IsDecided, hr]; simp)

instance (s : Schedule σ) (n : Nat) : Decidable (s.IsOutOfAttempts n) :=
  match hm : s.policy.maxAttempts with
  | none => isFalse (by rw [IsOutOfAttempts, hm]; simp)
  | some m => decidable_of_iff (m.toNat ≤ n + 1) (by rw [IsOutOfAttempts, hm]; simp)

instance (s : Schedule σ) (n : Nat) : Decidable (s.IsOutOfTime n) :=
  match ht : s.policy.timeout with
  | none => isFalse (by rw [IsOutOfTime, ht]; simp)
  | some t => decidable_of_iff (t.nanos ≤ s.ends n) (by rw [IsOutOfTime, ht]; simp)

instance (s : Schedule σ) (n : Nat) : Decidable (s.IsLast n) :=
  inferInstanceAs (Decidable (_ ∨ _ ∨ _))

instance (s : Schedule σ) (n : Nat) : Decidable (s.Reaches n) :=
  inferInstanceAs (Decidable (∀ i < n, ¬ s.IsLast i))

/-! ## 3. The order of the times -/

theorem ends_lt_timeout {s : Schedule σ} {n : Nat} {t : Duration} (h : ¬ s.IsLast n)
    (ht : s.policy.timeout = some t) : s.ends n < t.nanos := by
  by_contra hout
  have hover : s.IsOutOfTime n := ⟨t, ht, by omega⟩
  exact h (.inr (.inr hover))

-- the pause behind check `n`, unless it is the last one
def pause (s : Schedule σ) (n : Nat) : Nat :=
  match s.policy.timeout with
  | none => s.policy.delayAfter n
  | some t => min (s.policy.delayAfter n) (t.nanos - s.ends n)

-- The clamp of the time is the same as a clamp of the delay, as long as the timeout is not over.
theorem begins_succ_of_not_isLast {s : Schedule σ} {n : Nat} (h : ¬ s.IsLast n) :
    s.begins (n + 1) = s.ends n + s.pause n := by
  rw [begins_succ]
  unfold clamp pause
  cases ht : s.policy.timeout with
  | none => rfl
  | some t =>
    have hbefore := ends_lt_timeout h ht
    show min (s.ends n + s.policy.delayAfter n) t.nanos
      = s.ends n + min (s.policy.delayAfter n) (t.nanos - s.ends n)
    omega

theorem pause_pos {s : Schedule σ} {n : Nat} (h : ¬ s.IsLast n)
    (hp : 0 < s.policy.pollInterval.nanos) : 0 < s.pause n := by
  have hdelay := s.policy.pollInterval_le_delayAfter n
  unfold pause
  cases ht : s.policy.timeout with
  | none =>
    show 0 < s.policy.delayAfter n
    omega
  | some t =>
    have hbefore := ends_lt_timeout h ht
    show 0 < min (s.policy.delayAfter n) (t.nanos - s.ends n)
    omega

theorem ends_le_begins_succ {s : Schedule σ} {n : Nat} (h : ¬ s.IsLast n) :
    s.ends n ≤ s.begins (n + 1) := by
  rw [begins_succ_of_not_isLast h]
  exact Nat.le_add_right _ _

theorem ends_le_begins {s : Schedule σ} {m n : Nat} (h : s.Reaches n) (hmn : m < n) :
    s.ends m ≤ s.begins n := by
  induction n with
  | zero => omega
  | succ n ih =>
    rcases (s.reaches_succ_iff n).mp h with ⟨hbefore, hn⟩
    have hlast := ends_le_begins_succ hn
    by_cases hm : m = n
    · rwa [hm]
    · -- an earlier check ends before check `n` begins
      have hstep := ih hbefore (by omega)
      have hcheck := s.begins_le_ends n
      omega

theorem begins_le_begins {s : Schedule σ} {m n : Nat} (h : s.Reaches n) (hmn : m ≤ n) :
    s.begins m ≤ s.begins n := by
  by_cases hm : m = n
  · rw [hm]
  · have hends := ends_le_begins h (show m < n by omega)
    have hcheck := s.begins_le_ends m
    omega

-- Each round takes at least the poll interval, but the last one stops at the timeout.
theorem clamp_mul_pollInterval_le_begins (s : Schedule σ) (n : Nat) :
    clamp s.policy (n * s.policy.pollInterval.nanos) ≤ s.begins n := by
  induction n with
  | zero =>
    rw [Nat.zero_mul]
    unfold clamp
    cases s.policy.timeout with
    | none => exact Nat.le_refl _
    | some t => exact Nat.min_le_left _ _
  | succ n ih =>
    have hdelay := s.policy.pollInterval_le_delayAfter n
    have hcheck := s.begins_le_ends n
    have hround : (n + 1) * s.policy.pollInterval.nanos
        = n * s.policy.pollInterval.nanos + s.policy.pollInterval.nanos := Nat.succ_mul _ _
    rw [begins_succ, hround]
    unfold clamp at ih ⊢
    cases ht : s.policy.timeout with
    | none =>
      simp only [ht] at ih ⊢
      omega
    | some t =>
      simp only [ht] at ih ⊢
      omega

/-! ## 4. What is logged and how it ends -/

-- the number of checks up to check `n`, as it is reported
def attempts (n : Nat) : Nat := min (n + 1) (2 ^ 32 - 1)

/-- The verdict if check `n` is the last one. A reply that decides comes before a bound. -/
def verdict (s : Schedule σ) (n : Nat) : Except Fault Unit :=
  match (s.check n).reply with
  | .error fault => .error fault
  | .ok true => .ok ()
  | .ok false => .error (.timedOut (attempts n) (s.ends n))

def closing (s : Schedule σ) (n : Nat) : List Log.Entry :=
  match (s.check n).reply with
  | .error _ => []
  | .ok true => [finalLine (attempts n)]
  | .ok false => [givingUpLine (attempts n) (s.ends n)]

def goingOn (s : Schedule σ) (n : Nat) : Log.Entry :=
  pollingAgainLine (s.begins (n + 1) - s.ends n)

/-- The events of check `n`, with some lines behind it. -/
def eventsOf (s : Schedule σ) (n : Nat) (lines : List Log.Entry) : Trace :=
  ⟨s.begins n, .check⟩ :: lines.map fun entry => ⟨s.ends n, .line entry⟩

/-- The events of the first `n` checks, none of which is the last one. -/
def eventsBefore (s : Schedule σ) (n : Nat) : Trace :=
  (List.range n).flatMap fun i => s.eventsOf i [s.goingOn i]

/-- How the wait ends if check `n` is the last one. -/
def outcome (s : Schedule σ) (n : Nat) : Outcome σ where
  verdict := s.verdict n
  time := s.ends n
  trace := s.eventsBefore n ++ s.eventsOf n (s.closing n)
  state := s.stateAt (n + 1)

theorem eventsBefore_succ (s : Schedule σ) (n : Nat) :
    s.eventsBefore (n + 1) = s.eventsBefore n ++ s.eventsOf n [s.goingOn n] := by
  rw [eventsBefore, List.range_succ, List.flatMap_append, List.flatMap_singleton]
  rfl

theorem checkTimes_eventsOf (s : Schedule σ) (n : Nat) (lines : List Log.Entry) :
    Trace.checkTimes (s.eventsOf n lines) = [s.begins n] := by
  rw [eventsOf, Trace.checkTimes_check, Trace.checkTimes_logged]

theorem lines_eventsOf (s : Schedule σ) (n : Nat) (lines : List Log.Entry) :
    Trace.lines (s.eventsOf n lines) = lines := by
  rw [eventsOf, Trace.lines_check, Trace.lines_logged]

theorem checkTimes_eventsBefore (s : Schedule σ) (n : Nat) :
    Trace.checkTimes (s.eventsBefore n) = (List.range n).map s.begins := by
  induction n with
  | zero => rfl
  | succ n ih =>
    rw [eventsBefore_succ, Trace.checkTimes_append, ih, checkTimes_eventsOf, List.range_succ,
      List.map_append, List.map_singleton]

theorem lines_eventsBefore (s : Schedule σ) (n : Nat) :
    Trace.lines (s.eventsBefore n) = (List.range n).map s.goingOn := by
  induction n with
  | zero => rfl
  | succ n ih =>
    rw [eventsBefore_succ, Trace.lines_append, ih, lines_eventsOf, List.range_succ,
      List.map_append, List.map_singleton]

theorem checkTimes_outcome (s : Schedule σ) (n : Nat) :
    (s.outcome n).trace.checkTimes = (List.range (n + 1)).map s.begins := by
  rw [outcome, Trace.checkTimes_append, checkTimes_eventsBefore, checkTimes_eventsOf,
    List.range_succ, List.map_append, List.map_singleton]

theorem lines_outcome (s : Schedule σ) (n : Nat) :
    (s.outcome n).trace.lines = (List.range n).map s.goingOn ++ s.closing n := by
  rw [outcome, Trace.lines_append, lines_eventsBefore, lines_eventsOf]

end Schedule

end Preflight.Wait
