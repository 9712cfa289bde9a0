import Preflight.Proofs.Tracking.Awaited

/-!
Waits under tighter and looser bounds. A looser timeout does not cut the last delay off as early, so
the two schedules part, but only at the check at which the tighter wait is out of time: what the
tighter wait decides before its bounds are used up, the looser one decides at the same check.
-/

namespace Preflight

/-- The second policy differs from the first one only in its bounds, and has none that is tighter. -/
structure Policy.IsRelaxedBy (p q : Policy) : Prop where
  same_delays : q = { p with maxAttempts := q.maxAttempts, timeout := q.timeout }
  maxAttempts_le : ∀ m', q.maxAttempts = some m' →
    ∃ m, p.maxAttempts = some m ∧ m.toNat ≤ m'.toNat
  timeout_le : ∀ t', q.timeout = some t' → ∃ t, p.timeout = some t ∧ t.nanos ≤ t'.nanos

namespace Policy.IsRelaxedBy

variable {p q : Policy}

theorem delayAfter_eq (h : p.IsRelaxedBy q) (n : Nat) : q.delayAfter n = p.delayAfter n := by
  rw [h.same_delays]
  rfl

end Policy.IsRelaxedBy

namespace Wait

open Schedule

variable {σ : Type} {p q : Policy}

/-! ## 1. Schedules under relaxed bounds -/

theorem clamp_le_clamp (h : p.IsRelaxedBy q) (time : Nat) : clamp p time ≤ clamp q time := by
  unfold clamp
  cases hq : q.timeout with
  | none =>
    cases p.timeout with
    | none => exact Nat.le_refl _
    | some t => exact Nat.min_le_left _ _
  | some t' =>
    rcases h.timeout_le t' hq with ⟨t, hp, hle⟩
    rw [hp]
    show min time t.nanos ≤ min time t'.nanos
    omega

-- What the tighter timeout does not cut off, the looser one does not either.
theorem clamp_eq_clamp (h : p.IsRelaxedBy q) {time : Nat}
    (hlt : ∀ t, p.timeout = some t → clamp p time < t.nanos) : clamp q time = clamp p time := by
  have hle := clamp_le_clamp h time
  unfold clamp at hlt hle ⊢
  cases hp : p.timeout with
  | none =>
    have hq : q.timeout = none := by
      cases hq : q.timeout with
      | none => rfl
      | some t' =>
        rcases h.timeout_le t' hq with ⟨t, ht, -⟩
        rw [hp] at ht
        cases ht
    rw [hq]
  | some t =>
    have hbefore := hlt t hp
    simp only [hp] at hbefore hle ⊢
    cases hq : q.timeout with
    | none =>
      show time = min time t.nanos
      omega
    | some t' =>
      simp only [hq] at hle
      show min time t'.nanos = min time t.nanos
      omega

variable {watch : Watch σ} {state : σ} {k : Nat}

-- Up to a check that is not the last one under the tighter bounds the two schedules are the same.
theorem entry_eq_entry (h : p.IsRelaxedBy q) (hk : (Schedule.mk p watch state).Reaches (k + 1)) :
    (Schedule.mk q watch state).entry k = (Schedule.mk p watch state).entry k := by
  induction k with
  | zero => rfl
  | succ k ih =>
    rcases (reaches_succ_iff _ _).mp hk with ⟨hbefore, hopen⟩
    have hclamp : ∀ t, p.timeout = some t →
        (Schedule.mk p watch state).begins (k + 1) < t.nanos := by
      intro t ht
      have hends := ends_lt_timeout hopen (t := t) ht
      have hcheck := (Schedule.mk p watch state).begins_le_ends (k + 1)
      omega
    have hsame := clamp_eq_clamp h hclamp
    rw [entry, entry, ih hbefore, h.delayAfter_eq]
    exact congrArg (·, _) hsame

theorem begins_le_begins_relaxed (h : p.IsRelaxedBy q)
    (hk : (Schedule.mk p watch state).Reaches k) :
    (Schedule.mk p watch state).begins k ≤ (Schedule.mk q watch state).begins k := by
  cases k with
  | zero => exact Nat.le_refl _
  | succ k =>
    rw [begins, begins, entry, entry, entry_eq_entry h hk, h.delayAfter_eq]
    exact clamp_le_clamp h _

theorem reaches_relaxed (h : p.IsRelaxedBy q) (hk : (Schedule.mk p watch state).Reaches k) :
    (Schedule.mk q watch state).Reaches k := by
  intro n hn hlast
  have hentry := entry_eq_entry h (hk.mono (Nat.succ_le_of_lt hn))
  have hcheck : (Schedule.mk q watch state).check n = (Schedule.mk p watch state).check n := by
    rw [check, check, stateAt, stateAt, begins, begins, hentry]
  have hends : (Schedule.mk q watch state).ends n = (Schedule.mk p watch state).ends n := by
    rw [ends, ends, hcheck, begins, begins, hentry]
  -- what makes the check the last one under the looser bounds does so under the tighter ones
  apply hk n hn
  rcases hlast with hdecided | ⟨m', hm', hle'⟩ | ⟨t', ht', hle'⟩
  · left
    rwa [IsDecided, hcheck] at hdecided
  · rcases h.maxAttempts_le m' hm' with ⟨m, hm, hle⟩
    exact .inr (.inl ⟨m, hm, by omega⟩)
  · rcases h.timeout_le t' ht' with ⟨t, ht, hle⟩
    exact .inr (.inr ⟨t, ht, by omega⟩)

/-! ## 2. Decisions under relaxed bounds -/

/-- What a wait under the first policy decides is decided under the second one too, in the same way
and with as many checks, but not earlier. -/
def KeepsDecisions (p q : Policy) (watch : Watch σ) (state : σ) : Prop :=
  ∀ checks outcome, run checks (.live p) none watch state = some outcome →
    (∀ attempts elapsed, outcome.verdict ≠ .error (.timedOut attempts elapsed)) →
    ∃ outcome', run checks (.live q) none watch state = some outcome' ∧
      outcome'.verdict = outcome.verdict ∧
      outcome'.trace.checkTimes.length = outcome.trace.checkTimes.length ∧
      outcome.time ≤ outcome'.time

theorem isDecided_of_verdict {s : Schedule σ}
    (h : ∀ attempts elapsed, s.verdict k ≠ .error (.timedOut attempts elapsed)) :
    s.IsDecided k := by
  by_contra hopen
  have hreply := reply_of_not_isDecided hopen
  apply h (attempts k) (s.ends k)
  rw [verdict, hreply]

theorem verdict_eq_of_check {s r : Schedule σ} (hdecided : s.IsDecided k)
    (hcheck : r.check k = s.check k) : r.verdict k = s.verdict k := by
  rw [verdict, verdict, hcheck]
  rcases hdecided with hfinal | ⟨fault, herror⟩
  · rw [hfinal]
  · rw [herror]

-- It is enough that a check that decides is the same when it begins later.
theorem keepsDecisions_of_check (h : p.IsRelaxedBy q)
    (hcheck : ∀ k, (Schedule.mk p watch state).Reaches k →
      (Schedule.mk p watch state).IsDecided k →
      (Schedule.mk q watch state).check k = (Schedule.mk p watch state).check k) :
    KeepsDecisions p q watch state := by
  intro checks outcome hrun hdecision
  rcases (Schedule.mk p watch state).run_eq_some_iff.mp hrun with ⟨k, hk, hreaches, -, rfl⟩
  have hdecided := isDecided_of_verdict hdecision
  have hsame := hcheck k hreaches hdecided
  have hlast : (Schedule.mk q watch state).IsLast k := by
    left
    rwa [IsDecided, hsame]
  have hlater := begins_le_begins_relaxed h hreaches
  refine ⟨(Schedule.mk q watch state).outcome k, ?_, verdict_eq_of_check hdecided hsame, ?_, ?_⟩
  · exact (Schedule.mk q watch state).run_eq_some_iff.mpr
      ⟨k, hk, reaches_relaxed h hreaches, hlast, rfl⟩
  · rw [checkTimes_outcome, checkTimes_outcome, List.length_map, List.length_map]
  · show (Schedule.mk p watch state).ends k ≤ (Schedule.mk q watch state).ends k
    rw [ends, ends, hsame]
    exact Nat.add_le_add_right hlater _

/-- Relaxing the bounds of a live wait never changes a decision. This holds of every source whose
check number `n` is the same whatever the policy is, and of every call that a listener follows. -/
theorem relaxed_keepsDecisions (h : p.IsRelaxedBy q) :
    (∀ {σ : Type} (watch : Watch σ) (state : σ) (checks : Nat → Check),
      (∀ r n, (Schedule.mk r watch state).check n = checks n) →
      KeepsDecisions p q watch state) ∧
    ∀ (f : Feed) (start : Nat), KeepsDecisions p q (f.watchFrom start) () := by
  constructor
  · intro σ watch state checks hchecks
    apply keepsDecisions_of_check h
    intro k _ _
    rw [hchecks, hchecks]
  · intro f start
    apply keepsDecisions_of_check h
    intro k hreaches hdecided
    -- the deciding check finds a terminal status, which is there to stay
    have hterminal := (f.isDecided_awaiting_iff start p k).mp hdecided
    have hlater := Nat.add_le_add_left (begins_le_begins_relaxed h hreaches) start
    have hstatus := f.statusAt_of_isTerminal hterminal hlater
    show Check.mk (f.statusAt _).reply 0 = Check.mk (f.statusAt _).reply 0
    rw [hstatus]
    rfl

/-! ## 3. An example -/

/-- The second of two checks takes six seconds, and the third one is final. -/
def thirdTimeFinal : Nat → Check
  | 0 => { reply := .ok false }
  | 1 => { reply := .ok false, takes := 6000000000 }
  | _ => { reply := .ok true }

/-- Ten seconds between checks, at most three of them, and no timeout. -/
def threeChecks : Policy where
  pollInterval := .ofMillis 10000
  maxAttempts := some 3

/-- The same delays as those of `threeChecks`, but for eighteen seconds. -/
def threeChecksInTime : Policy := { threeChecks with timeout := some (.ofMillis 18000) }

/-- Under the timeout the third check is two seconds behind the second one, and else ten. -/
theorem relaxed_keepsDecisions_threeChecks :
    threeChecksInTime.IsRelaxedBy threeChecks ∧
    (∀ r n, (Schedule.mk r (inOrder thirdTimeFinal) 0).check n = thirdTimeFinal n) ∧
    (∃ outcome outcome',
      run 3 (.live threeChecksInTime) none (inOrder thirdTimeFinal) 0 = some outcome ∧
      run 3 (.live threeChecks) none (inOrder thirdTimeFinal) 0 = some outcome' ∧
      outcome.verdict = .ok () ∧ outcome'.verdict = .ok () ∧
      outcome.time = 18000000000 ∧ outcome'.time = 26000000000) ∧
    ∃ outcome outcome',
      run 3 (.live threeChecksInTime) none (Feed.fifteenSeconds.watchFrom 2000000000) ()
        = some outcome ∧
      run 3 (.live threeChecks) none (Feed.fifteenSeconds.watchFrom 2000000000) ()
        = some outcome' ∧
      outcome.verdict = .ok () ∧ outcome'.verdict = .ok () ∧ outcome.time ≤ outcome'.time := by
  have hrelaxed : threeChecksInTime.IsRelaxedBy threeChecks := by
    refine ⟨rfl, fun m' hm' => ⟨m', hm', Nat.le_refl _⟩, fun t' ht' => ?_⟩
    cases ht'
  have hchecks : ∀ r n, (Schedule.mk r (inOrder thirdTimeFinal) 0).check n = thirdTimeFinal n :=
    fun r n => check_inOrder r thirdTimeFinal n
  have hok : ∀ attempts elapsed,
      (Except.ok () : Except Fault Unit) ≠ .error (.timedOut attempts elapsed) := by
    intro attempts elapsed h
    cases h
  rcases relaxed_keepsDecisions hrelaxed with ⟨hsources, hcalls⟩
  refine ⟨hrelaxed, hchecks, ?_, ?_⟩
  · rcases hsources _ _ _ hchecks 3 _ rfl hok with ⟨outcome', hrun, hverdict, -, -⟩
    have htime : outcome'.time = 26000000000 := by
      change some _ = some outcome' at hrun
      cases hrun
      decide
    exact ⟨_, outcome', rfl, hrun, rfl, hverdict, rfl, htime⟩
  · have hcall := hcalls (Feed.fifteenSeconds.feed "0x01") 2000000000
    rw [Timeline.watchFrom_feed] at hcall
    rcases hcall 3 _ rfl hok with ⟨outcome', hrun, hverdict, -, hlater⟩
    exact ⟨_, outcome', rfl, hrun, rfl, hverdict, hlater⟩

end Wait

end Preflight
