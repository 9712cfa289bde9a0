import Preflight.Fault
import Preflight.Policy
import Preflight.Trace

/-!
Waiting until something is final. A wait checks, and while the answer is not final it sleeps and
checks again, until a check decides it, a bound of the policy is used up, or it is called off. Time
is in nanoseconds since the start of the wait; only checks and sleeps take any. A sleep takes
exactly as long as it was asked for, as with a timer that counts nanoseconds without end; one that
counts milliseconds rounds a sleep up, and cuts one off that is longer than it can count.

A wait goes from stage to stage, one check at a time. It may be without end, so `Wait.stage` takes
the number of checks that it may make, and `Wait.run` answers `none` when that does not suffice.
-/

namespace Preflight

/-! ## 1. Checks -/

/-- One answer to the question for finality, and how long it took. -/
structure Check where
  reply : Except Fault Bool
  takes : Nat := 0

/-- How something of state `σ` is checked at a time. -/
abbrev Watch (σ : Type) := σ → Nat → Check × σ

namespace Wait

-- the count of attempts is a word and stops at the largest one
def maxAttemptCount : Nat := Nat.pow 2 32 - 1

/-! ## 2. Lines -/

def testModeLine : Log.Entry :=
  ⟨.debug, Log.finalizationTopic, "Test environment, not waiting for finalization"⟩

def finalLine (attempts : Nat) : Log.Entry :=
  ⟨.debug, Log.finalizationTopic, s!"Transaction finalized after {attempts} poll(s)"⟩

def givingUpLine (attempts elapsed : Nat) : Log.Entry :=
  ⟨.warn, Log.finalizationTopic,
    s!"Giving up on finalization after {attempts} poll(s) ({Nanos.text elapsed})"⟩

def pollingAgainLine (delay : Nat) : Log.Entry :=
  ⟨.debug, Log.finalizationTopic,
    s!"Transaction not finalized yet, polling again in {Nanos.text delay}"⟩

/-! ## 3. One turn -/

-- a wait is called off from the time of its cancellation on
def isCancelled (cancel : Option Nat) (time : Nat) : Bool :=
  match cancel with
  | none => false
  | some c => c ≤ time

/-- Whether a bound of the policy is used up after some attempts, at a time. -/
def isExhausted (p : Policy) (attempts time : Nat) : Bool :=
  (match p.maxAttempts with
    | none => false
    | some m => m.toNat ≤ attempts)
  || (match p.timeout with
    | none => false
    | some t => t.nanos ≤ time)

/-- The delay before the next check: the interval, but no longer than what is left of the
timeout. -/
def delay (p : Policy) (interval : Duration) (time : Nat) : Nat :=
  match p.timeout with
  | none => interval.nanos
  | some t => min interval.nanos (t.nanos - time)

/-- What follows from a check. -/
inductive Turn where
  | over (verdict : Except Fault Unit) (time : Nat)
  | again (time : Nat)

/-- What follows from a check that ended at `time` as attempt number `attempts`, and the lines that
are logged then. -/
def turn (p : Policy) (cancel : Option Nat) (interval : Duration) (attempts time : Nat)
    (reply : Except Fault Bool) : Turn × List Log.Entry :=
  match reply with
  | .error fault => (.over (.error fault) time, [])
  | .ok true => (.over (.ok ()) time, [finalLine attempts])
  | .ok false =>
    if isExhausted p attempts time then
      (.over (.error (.timedOut attempts time)) time, [givingUpLine attempts time])
    else
      let pause := delay p interval time
      let next := time + pause
      match cancel with
      | none => (.again next, [pollingAgainLine pause])
      | some c =>
        -- the cancellation of an earlier time is noticed as soon as the pause begins
        if c < next then (.over (.error .cancelled) (max c time), [pollingAgainLine pause])
        else (.again next, [pollingAgainLine pause])

/-! ## 4. Stages -/

structure Outcome (σ : Type) where
  verdict : Except Fault Unit
  time : Nat
  trace : Trace
  state : σ

structure Position where
  time : Nat
  attempts : Nat
  interval : Duration

def start (p : Policy) : Position := ⟨0, 0, p.pollInterval⟩

/-- How far a wait came. -/
inductive Stage (σ : Type) where
  /-- The next check is due, behind the events of a trace. -/
  | waiting (position : Position) (trace : Trace) (state : σ)
  | ended (outcome : Outcome σ)

namespace Stage

variable {σ : Type}

/-- The time at which the next check begins, or at which the wait ended. -/
def time : Stage σ → Nat
  | waiting position _ _ => position.time
  | ended outcome => outcome.time

def trace : Stage σ → Trace
  | waiting _ trace _ => trace
  | ended outcome => outcome.trace

def state : Stage σ → σ
  | waiting _ _ state => state
  | ended outcome => outcome.state

def outcome? : Stage σ → Option (Outcome σ)
  | waiting _ _ _ => none
  | ended outcome => some outcome

end Stage

/-! ## 5. Runs -/

variable {σ : Type}

/-- The stage at a position. A wait that is called off by then makes no further check. -/
def arrive (cancel : Option Nat) (pos : Position) (trace : Trace) (state : σ) : Stage σ :=
  if isCancelled cancel pos.time then .ended ⟨.error .cancelled, pos.time, trace, state⟩
  else .waiting pos trace state

/-- The stage behind one more check. -/
def step (p : Policy) (cancel : Option Nat) (watch : Watch σ) : Stage σ → Stage σ
  | .ended outcome => .ended outcome
  | .waiting pos trace state =>
    let attempts := min (pos.attempts + 1) maxAttemptCount
    let seen := watch state pos.time
    let time := pos.time + seen.1.takes
    let next := turn p cancel pos.interval attempts time seen.1.reply
    let trace := trace ++ ⟨pos.time, .check⟩ :: next.2.map fun entry => ⟨time, .line entry⟩
    match next.1 with
    | .over verdict ended => .ended ⟨verdict, ended, trace, seen.2⟩
    | .again begins => arrive cancel ⟨begins, attempts, p.nextInterval pos.interval⟩ trace seen.2

/-- The stage behind at most `checks` more checks. -/
def steps (p : Policy) (cancel : Option Nat) (watch : Watch σ) : Nat → Stage σ → Stage σ
  | 0, stage => stage
  | _ + 1, .ended outcome => .ended outcome
  | checks + 1, .waiting pos trace state =>
    steps p cancel watch checks (step p cancel watch (.waiting pos trace state))

/-- How far a wait comes that makes at most `checks` checks. Under a test configuration there is
nothing to wait for. The wait is called off at the time `cancel`; the time zero is before the first
check. -/
def stage (checks : Nat) (config : Config) (cancel : Option Nat) (watch : Watch σ) (state : σ) :
    Stage σ :=
  if config.isTest then .ended ⟨.ok (), 0, [⟨0, .line testModeLine⟩], state⟩
  else
    let p := config.finalization
    steps p cancel watch checks (arrive cancel (start p) [] state)

/-- Waits until something is final, making at most `checks` checks. -/
def run (checks : Nat) (config : Config) (cancel : Option Nat) (watch : Watch σ) (state : σ) :
    Option (Outcome σ) :=
  (stage checks config cancel watch state).outcome?

end Wait

end Preflight
