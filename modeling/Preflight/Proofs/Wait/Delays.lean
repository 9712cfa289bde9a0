import Preflight.Proofs.Wait.Stages
import Preflight.Rehearsal.Transaction

/-!
The pauses of a wait. Before each check a wait carries the delay that is to follow it, which is the
poll interval grown once for every check before, and what it announces in its log are these delays,
one after the other. A timeout cuts a pause to what is left of it, and then no other pause follows.
-/

namespace Preflight.Wait

/-! ## 1. Announced pauses -/

/-- When a pause begins, and how long it is to take. -/
structure Pause where
  begins : Nat
  takes : Nat

def Pause.ends (pause : Pause) : Nat := pause.begins + pause.takes

/-- The line that announces a pause. -/
def Pause.announcement (pause : Pause) : Nat × Log.Entry :=
  let takes := Nanos.text pause.takes
  (pause.begins, ⟨.debug, "pop_tx::finalization",
    s!"Transaction not finalized yet, polling again in {takes}"⟩)

/-- A delay that begins at a time, or as much of it as is left of the timeout. -/
def cut (p : Policy) (delay time : Nat) : Nat :=
  match p.timeout with
  | none => delay
  | some t => min delay (t.nanos - time)

/-- Pauses that are the first delays of a sequence, in order, each cut at the timeout. Only the last
of them may be shorter than its delay. -/
def AreDelays (p : Policy) (delay : Nat → Nat) (pauses : List Pause) : Prop :=
  ∀ i pause, pauses[i]? = some pause → pause.takes = cut p (delay i) pause.begins ∧
    (i + 1 < pauses.length → pause.takes = delay i)

/-- What is logged behind the last pause: nothing, that it is final, or that the wait gives up. -/
inductive IsClosing : List Log.Entry → Prop
  | nothing : IsClosing []
  | final (attempts : Nat) : IsClosing
    [⟨.debug, "pop_tx::finalization", s!"Transaction finalized after {attempts} poll(s)"⟩]
  | givingUp (attempts : Nat) (elapsed : String) : IsClosing
    [⟨.warn, "pop_tx::finalization",
      s!"Giving up on finalization after {attempts} poll(s) ({elapsed})"⟩]

/-- The lines of a wait announce delays of a sequence and then close the wait. The checks begin at
zero and where a pause is over; a pause stands behind each of them, but not always behind the
last. -/
def Announces (p : Policy) (delay : Nat → Nat) (trace : Trace) : Prop :=
  ∃ pauses closing, trace.stampedLines = pauses.map Pause.announcement ++ closing ∧
    AreDelays p delay pauses ∧ IsClosing (closing.map Prod.snd) ∧
    trace.checkTimes <+: 0 :: pauses.map Pause.ends ∧ pauses.length ≤ trace.checkTimes.length

theorem cut_cases (p : Policy) (delay time : Nat) :
    cut p delay time = delay ∨ ∃ t, p.timeout = some t ∧ t.nanos ≤ time + cut p delay time := by
  unfold cut
  cases p.timeout with
  | none => exact .inl rfl
  | some t =>
    show min delay (t.nanos - time) = delay ∨
      ∃ t', some t = some t' ∧ t'.nanos ≤ time + min delay (t.nanos - time)
    by_cases hle : delay ≤ t.nanos - time
    · exact .inl (Nat.min_eq_left hle)
    · refine .inr ⟨t, rfl, ?_⟩
      omega

/-! ## 2. Turns -/

variable {σ : Type} {p : Policy} {cancel : Option Nat}

/-- A turn closes the wait, or it announces the pause behind its check. -/
theorem turn_cases {interval : Duration} {attempts time : Nat} {reply : Except Fault Bool}
    {next : Turn × List Log.Entry} (h : turn p cancel interval attempts time reply = next) :
    (∃ verdict ended, next.1 = .over verdict ended ∧ IsClosing next.2) ∨
      (¬ isExhausted p attempts time = true ∧
        next.2 = [pollingAgainLine (delay p interval time)] ∧
        ((∃ verdict ended, next.1 = .over verdict ended) ∨
          next.1 = .again (time + delay p interval time))) := by
  subst h
  match reply with
  | .error fault => exact .inl ⟨_, _, rfl, .nothing⟩
  | .ok true => exact .inl ⟨_, _, rfl, .final attempts⟩
  | .ok false =>
    rw [turn]
    by_cases hbound : isExhausted p attempts time = true
    · rw [if_pos hbound]
      exact .inl ⟨_, _, rfl, .givingUp attempts (Nanos.text time)⟩
    · rw [if_neg hbound]
      refine .inr ⟨hbound, ?_⟩
      cases cancel with
      | none => exact ⟨rfl, .inr rfl⟩
      | some c =>
        by_cases hc : c < time + delay p interval time
        · simp only [hc, if_true]
          exact ⟨trivial, .inl ⟨_, _, rfl⟩⟩
        · simp only [hc, if_false]
          exact ⟨trivial, .inr trivial⟩

/-- What one more check does: it closes the wait, or it announces the pause behind it, in which the
wait may be called off. -/
theorem step_cases (cancel : Option Nat) (watch : Watch σ) (pos : Position) (trace : Trace)
    (state : σ) :
    let attempts := min (pos.attempts + 1) maxAttemptCount
    let seen := watch state pos.time
    let time := pos.time + seen.1.takes
    ∃ lines : List Log.Entry,
      let later := trace ++ ⟨pos.time, .check⟩ :: lines.map fun entry => ⟨time, .line entry⟩
      let next := step p cancel watch (.waiting pos trace state)
      (∃ verdict ended, next = .ended ⟨verdict, ended, later, seen.2⟩ ∧ IsClosing lines) ∨
        (¬ isExhausted p attempts time = true ∧
          lines = [pollingAgainLine (delay p pos.interval time)] ∧
          ((∃ verdict ended, next = .ended ⟨verdict, ended, later, seen.2⟩) ∨
            next = arrive cancel ⟨time + delay p pos.interval time, attempts,
              p.nextInterval pos.interval⟩ later seen.2)) := by
  intro attempts seen time
  obtain ⟨next, hnext⟩ : ∃ next, turn p cancel pos.interval attempts time seen.1.reply = next :=
    ⟨_, rfl⟩
  refine ⟨next.2, ?_⟩
  simp only [step]
  rw [hnext]
  rcases turn_cases hnext with ⟨verdict, ended, hover, hclosing⟩ | ⟨hopen, hline, hgoing⟩
  · rw [hover]
    exact .inl ⟨verdict, ended, rfl, hclosing⟩
  · refine .inr ⟨hopen, hline, ?_⟩
    rcases hgoing with ⟨verdict, ended, hover⟩ | hbegins
    · rw [hover]
      exact .inl ⟨verdict, ended, rfl⟩
    · rw [hbegins]
      exact .inr rfl

theorem lt_timeout_of_not_isExhausted {attempts time : Nat} {t : Duration}
    (h : ¬ isExhausted p attempts time = true) (ht : p.timeout = some t) : time < t.nanos := by
  rw [isExhausted, ht, Bool.or_eq_true, not_or] at h
  exact Nat.not_le.mp fun hle => h.2 (decide_eq_true hle)

/-! ## 3. Stages -/

/-- The pauses up to a check that is due at a time, one behind each check before. All are the delays
in their order, unless the last one was cut and the timeout is over. -/
structure HasPaused (p : Policy) (due : Nat) (checkTimes : List Nat) (pauses : List Pause) :
    Prop where
  areDelays : AreDelays p p.delayAfter pauses
  ends_eq : 0 :: pauses.map Pause.ends = checkTimes ++ [due]
  full_or_over : (∀ i pause, pauses[i]? = some pause → pause.takes = p.delayAfter i) ∨
    ∃ t, p.timeout = some t ∧ t.nanos ≤ due

/-- Before a check, the wait carries the delay that is to follow it, and what it announced so far
are the pauses behind the checks before. -/
structure Position.KeepsPace (p : Policy) (pos : Position) (trace : Trace) : Prop where
  interval : pos.interval = p.intervalAfter p.pollInterval trace.checkTimes.length
  lines : ∃ pauses, trace.stampedLines = pauses.map Pause.announcement ∧
    HasPaused p pos.time trace.checkTimes pauses

def Stage.KeepsPace (p : Policy) : Stage σ → Prop
  | .waiting pos trace _ => pos.KeepsPace p trace
  | .ended outcome => Announces p p.delayAfter outcome.trace

theorem hasPaused_nil (p : Policy) : HasPaused p 0 [] [] where
  areDelays := fun _ _ h => nomatch h
  ends_eq := rfl
  full_or_over := .inl fun _ _ h => nomatch h

namespace HasPaused

variable {due : Nat} {checkTimes : List Nat} {pauses : List Pause}

theorem length_eq (h : HasPaused p due checkTimes pauses) : pauses.length = checkTimes.length := by
  have hlength := congrArg List.length h.ends_eq
  rw [List.length_cons, List.length_map, List.length_append, List.length_singleton] at hlength
  omega

-- A pause that was cut is not followed by another one: the timeout is over.
theorem append (h : HasPaused p due checkTimes pauses)
    (hlt : ∀ t, p.timeout = some t → due < t.nanos) {last : Pause}
    (hlast : last.takes = cut p (p.delayAfter checkTimes.length) last.begins) :
    HasPaused p last.ends (checkTimes ++ [due]) (pauses ++ [last]) := by
  have hlength := h.length_eq
  have hfull : ∀ i pause, pauses[i]? = some pause → pause.takes = p.delayAfter i := by
    rcases h.full_or_over with hfull | ⟨t, ht, hover⟩
    · exact hfull
    · exact absurd (hlt t ht) (Nat.not_lt.mpr hover)
  -- a pause of the longer list is one of those before, or the one behind them
  have hcases : ∀ i pause, (pauses ++ [last])[i]? = some pause →
      pauses[i]? = some pause ∨ i = checkTimes.length ∧ pause = last := by
    intro i pause hi
    by_cases hbefore : i < pauses.length
    · rw [List.getElem?_append_left hbefore] at hi
      exact .inl hi
    · rw [List.getElem?_append_right (Nat.not_lt.mp hbefore), List.getElem?_singleton] at hi
      split at hi
      case isTrue hzero => exact .inr ⟨by omega, (Option.some.inj hi).symm⟩
      case isFalse => cases hi
  constructor
  · intro i pause hi
    rcases hcases i pause hi with hbefore | ⟨rfl, rfl⟩
    · exact ⟨(h.areDelays i pause hbefore).1, fun _ => hfull i pause hbefore⟩
    · refine ⟨hlast, fun hmore => ?_⟩
      rw [List.length_append, List.length_singleton] at hmore
      omega
  · rw [List.map_append, List.map_singleton, ← List.cons_append, h.ends_eq]
  · rcases cut_cases p (p.delayAfter checkTimes.length) last.begins with hwhole | hover
    · left
      intro i pause hi
      rcases hcases i pause hi with hbefore | ⟨rfl, rfl⟩
      · exact hfull i pause hbefore
      · exact hlast.trans hwhole
    · rw [← hlast] at hover
      exact .inr hover

end HasPaused

section Position

variable {pos : Position} {trace : Trace}

theorem Position.KeepsPace.announces (h : pos.KeepsPace p trace) :
    Announces p p.delayAfter trace := by
  obtain ⟨pauses, hlines, hpauses⟩ := h.lines
  refine ⟨pauses, [], by rw [hlines, List.append_nil], hpauses.areDelays, .nothing, ?_, ?_⟩
  · rw [hpauses.ends_eq]
    exact List.prefix_append _ _
  · exact Nat.le_of_eq hpauses.length_eq

theorem keepsPace_arrive (state : σ) (h : pos.KeepsPace p trace) :
    (arrive cancel pos trace state).KeepsPace p := by
  rw [arrive]
  split
  · exact h.announces
  · exact h

variable {later : Trace} (h : pos.KeepsPace p trace)
  (hchecks : later.checkTimes = trace.checkTimes ++ [pos.time])

include h hchecks

theorem Position.KeepsPace.announces_closing {closing : List (Nat × Log.Entry)}
    (hlines : later.stampedLines = trace.stampedLines ++ closing)
    (hclosing : IsClosing (closing.map Prod.snd)) : Announces p p.delayAfter later := by
  obtain ⟨pauses, hbefore, hpauses⟩ := h.lines
  refine ⟨pauses, closing, by rw [hlines, hbefore], hpauses.areDelays, hclosing, ?_, ?_⟩
  · exact ⟨[], by rw [List.append_nil, hchecks, hpauses.ends_eq]⟩
  · rw [hchecks, List.length_append, hpauses.length_eq]
    exact Nat.le_add_right _ _

theorem Position.KeepsPace.again {time : Nat}
    (hlt : ∀ t, p.timeout = some t → pos.time < t.nanos)
    (hlines : later.stampedLines =
      trace.stampedLines ++ [(time, pollingAgainLine (delay p pos.interval time))])
    (attempts : Nat) : Position.KeepsPace p
      ⟨time + delay p pos.interval time, attempts, p.nextInterval pos.interval⟩ later where
  interval := by
    rw [hchecks, List.length_append, List.length_singleton, p.intervalAfter_succ, ← h.interval]
  lines := by
    obtain ⟨pauses, hbefore, hpauses⟩ := h.lines
    let last : Pause := ⟨time, delay p pos.interval time⟩
    have hinterval : pos.interval.nanos = p.delayAfter trace.checkTimes.length := by
      rw [h.interval, p.nanos_intervalAfter_pollInterval]
    have hlast : last.takes = cut p (p.delayAfter trace.checkTimes.length) last.begins := by
      rw [← hinterval]
      rfl
    refine ⟨pauses ++ [last], ?_, ?_⟩
    · rw [hlines, hbefore, List.map_append, List.map_singleton]
      rfl
    · rw [hchecks]
      exact hpauses.append hlt hlast

end Position

theorem keepsPace_step (watch : Watch σ) {stage : Stage σ} (h : stage.KeepsPace p) :
    (step p cancel watch stage).KeepsPace p := by
  cases stage with
  | ended outcome => exact h
  | waiting pos trace state =>
    have h : pos.KeepsPace p trace := h
    obtain ⟨lines, hcases⟩ := step_cases (p := p) cancel watch pos trace state
    let time := pos.time + (watch state pos.time).1.takes
    let later := trace ++ ⟨pos.time, .check⟩ :: lines.map fun entry => ⟨time, .line entry⟩
    have hlines : later.stampedLines =
        trace.stampedLines ++ lines.map fun entry => (time, entry) := by
      simp [later]
    have hchecks : later.checkTimes = trace.checkTimes ++ [pos.time] := by simp [later]
    rcases hcases with ⟨verdict, ended, hstep, hclosing⟩ | ⟨hopen, hline, hgoing⟩
    · rw [hstep]
      refine h.announces_closing hchecks hlines ?_
      have hentries : (lines.map fun entry => (time, entry)).map Prod.snd = lines := by
        simp only [List.map_map, Function.comp_def, List.map_id']
      rwa [hentries]
    · have hbefore : ∀ t, p.timeout = some t → pos.time < t.nanos := fun t ht =>
        Nat.lt_of_le_of_lt (Nat.le_add_right _ _) (lt_timeout_of_not_isExhausted hopen ht)
      have hannounced : lines.map (fun entry => (time, entry)) =
          [(time, pollingAgainLine (delay p pos.interval time))] := by
        rw [hline, List.map_singleton]
      rw [hannounced] at hlines
      have hagain := h.again hchecks hbefore hlines (min (pos.attempts + 1) maxAttemptCount)
      -- the pause is announced, whether or not it is called off
      rcases hgoing with ⟨verdict, ended, hstep⟩ | hstep
      · rw [hstep]
        exact hagain.announces
      · rw [hstep]
        exact keepsPace_arrive _ hagain

/-- Every wait keeps pace with its delays, whatever is checked and whenever it is called off. -/
theorem keepsPace_stage (p : Policy) (cancel : Option Nat) (watch : Watch σ) (state : σ)
    (checks : Nat) : (stage checks (.live p) cancel watch state).KeepsPace p := by
  show (steps p cancel watch checks (arrive cancel (start p) [] state)).KeepsPace p
  induction checks with
  | zero =>
    have hstart : (start p).KeepsPace p [] := ⟨rfl, [], rfl, hasPaused_nil p⟩
    exact keepsPace_arrive state hstart
  | succ checks ih =>
    rw [steps_succ]
    exact keepsPace_step watch ih

theorem Stage.KeepsPace.announces {stage : Stage σ} (h : stage.KeepsPace p) :
    Announces p p.delayAfter stage.trace := by
  cases stage with
  | waiting pos trace state => exact Position.KeepsPace.announces h
  | ended outcome => exact h

/-! ## 4. The delays of a wait -/

/-- The delays of a policy in closed form. A delay `c` that is grown `j` times, each time
multiplied, stopped at the largest duration and then at the cap, is the exact `c * b ^ j`, cut off
once at the cap; this holds of the poll interval for `j = 0` too. So the delays that begin with the
poll interval never shrink, lie between it and the cap, and stay at the cap. Every wait carries
these delays, and it announces them one after the other, a pause behind each check that is not the
last. A timeout cuts a pause to what is left of it, and then no other pause follows. -/
theorem delays_eq_min_cap (p : Policy) :
    let b := max p.backoff.toNat 1
    let cap := max p.maxInterval.nanos p.pollInterval.nanos
    let delay := fun j => (p.nextInterval^[j] p.pollInterval).nanos
    (∀ c j, 1 ≤ j → (p.nextInterval^[j] c).nanos = min (c.nanos * b ^ j) cap) ∧
    (∀ j, delay j = min (p.pollInterval.nanos * b ^ j) cap) ∧
    Monotone delay ∧ delay 0 = p.pollInterval.nanos ∧
    (∀ j, p.pollInterval.nanos ≤ delay j ∧ delay j ≤ cap) ∧
    (∀ i j, i ≤ j → delay i = cap → delay j = cap) ∧
    ∀ {σ : Type} (watch : Watch σ) (state : σ) (cancel : Option Nat) (checks : Nat),
      let stage := stage checks (.live p) cancel watch state
      (∀ pos trace now, stage = .waiting pos trace now →
        pos.interval = p.nextInterval^[trace.checkTimes.length] p.pollInterval) ∧
      Announces p delay stage.trace := by
  intro b cap delay
  have hdelay : delay = p.delayAfter := by
    funext j
    rw [← p.nanos_intervalAfter_pollInterval, p.intervalAfter_eq_iterate]
  rw [hdelay]
  refine ⟨fun c j hj => ?_, fun j => rfl, p.monotone_delayAfter, p.delayAfter_zero,
    fun j => ⟨p.pollInterval_le_delayAfter j, p.delayAfter_le j⟩,
    fun i j hij hcap => Policy.delayAfter_eq_cap hcap hij, ?_⟩
  · obtain ⟨n, rfl⟩ := Nat.exists_eq_add_of_le' hj
    rw [← p.intervalAfter_eq_iterate, p.nanos_intervalAfter_succ, p.nanos_cap]
    rfl
  · intro σ watch state cancel checks stage
    have hpace : stage.KeepsPace p := keepsPace_stage p cancel watch state checks
    refine ⟨fun pos trace now hstage => ?_, hpace.announces⟩
    rw [hstage] at hpace
    rw [← p.intervalAfter_eq_iterate]
    exact Position.KeepsPace.interval hpace

/-- Delays of one second that triple up to twenty seconds, for a quarter of a minute. -/
def triplingPolicy : Policy where
  pollInterval := .ofMillis 1000
  backoff := 3
  maxInterval := .ofMillis 20000
  maxAttempts := none
  timeout := some (.ofMillis 15000)

/-- The largest duration is followed by the cap, and so is the delay behind three checks, where a
wait comes to thirteen seconds. -/
theorem delays_eq_min_cap_tripling :
    let p := triplingPolicy
    let longest : Duration := .saturate maxNanos
    1 ≤ 1 ∧ (p.nextInterval^[1] longest).nanos = 20000000000 ∧
    3 ≤ 5 ∧ (p.nextInterval^[3] p.pollInterval).nanos = 20000000000 ∧
    (p.nextInterval^[5] p.pollInterval).nanos = 20000000000 ∧
    ∃ pos trace now,
      stage 3 (.live p) none Rehearsal.Transaction.watch .neverFinalized = .waiting pos trace now ∧
      pos.interval = p.nextInterval^[3] p.pollInterval ∧
      trace.lines = [1000000000, 3000000000, 9000000000].map pollingAgainLine := by
  intro p longest
  obtain ⟨hgrown, hclosed, -, -, -, hcap, hwait⟩ := delays_eq_min_cap p
  have hthree : (p.nextInterval^[3] p.pollInterval).nanos = 20000000000 :=
    (hclosed 3).trans (by decide)
  let s : Schedule _ := ⟨p, Rehearsal.Transaction.watch, .neverFinalized⟩
  have hstage : s.stage none 3 = .waiting (s.positionAt 3) (s.eventsBefore 3) (s.stateAt 3) :=
    s.stage_of_reaches none (by decide) rfl
  refine ⟨by decide, (hgrown longest 1 (by decide)).trans (by decide), by decide, hthree,
    hcap 3 5 (by decide) hthree, _, _, _, hstage, ?_, ?_⟩
  · have hinterval := (hwait s.watch s.state none 3).1 _ _ _ hstage
    rwa [s.checkTimes_eventsBefore, List.length_map, List.length_range] at hinterval
  · rw [s.lines_eventsBefore]
    decide +kernel

/-- Delays of ten seconds, for five seconds. -/
def briefPolicy : Policy where
  pollInterval := .ofMillis 10000
  backoff := 1
  maxInterval := .ofMillis 60000
  maxAttempts := none
  timeout := some (.ofMillis 5000)

/-- A pause that the timeout cuts is shorter than the poll interval, also where it is the first. -/
theorem first_pause_lt_pollInterval :
    ∃ outcome, run 2 (.live briefPolicy) none Rehearsal.Transaction.watch .neverFinalized
        = some outcome ∧
      outcome.trace.checkTimes = [0, 5000000000] ∧
      outcome.trace.stampedLines =
        [(0, ⟨.debug, "pop_tx::finalization",
            "Transaction not finalized yet, polling again in 5s"⟩),
          (5000000000, ⟨.warn, "pop_tx::finalization",
            "Giving up on finalization after 2 poll(s) (5s)"⟩)] ∧
      5000000000 < briefPolicy.pollInterval.nanos :=
  ⟨_, rfl, by decide, by decide +kernel, by decide⟩

end Preflight.Wait
