import Preflight.Call
import Preflight.Gas
import Preflight.Log

/-!
What a run does, in order: each effect with the time at which it happens, in nanoseconds since the
start of the run. The views of a trace pick out the effects of one kind.
-/

namespace Preflight

/-! ## 1. Effects -/

inductive Effect where
  | query (call : Call)
  | submit (call : Call) (options : CallOptions)
  -- a check of finality began
  | check
  | line (entry : Log.Entry)
  deriving DecidableEq, Repr

structure Event where
  time : Nat
  effect : Effect
  deriving DecidableEq, Repr

abbrev Trace := List Event

namespace Trace

/-! ## 2. Views -/

/-- The times at which a check began. -/
def checkTimes (t : Trace) : List Nat :=
  t.filterMap fun e => match e.effect with
    | .check => some e.time
    | _ => none

/-- The logged lines with their times. -/
def stampedLines (t : Trace) : List (Nat × Log.Entry) :=
  t.filterMap fun e => match e.effect with
    | .line entry => some (e.time, entry)
    | _ => none

def lines (t : Trace) : List Log.Entry :=
  t.stampedLines.map Prod.snd

def later (delay : Nat) (t : Trace) : Trace :=
  t.map fun e => { e with time := e.time + delay }

@[simp] theorem checkTimes_append (a b : Trace) :
    checkTimes (a ++ b) = checkTimes a ++ checkTimes b := by
  simp [checkTimes]

@[simp] theorem stampedLines_append (a b : Trace) :
    stampedLines (a ++ b) = stampedLines a ++ stampedLines b := by
  simp [stampedLines]

@[simp] theorem lines_append (a b : Trace) : lines (a ++ b) = lines a ++ lines b := by
  simp [lines]

theorem lines_mono {a b : Trace} (h : a <+: b) : lines a <+: lines b := by
  rcases h with ⟨rest, rfl⟩
  rw [lines_append]
  exact List.prefix_append _ _

@[simp] theorem checkTimes_check (time : Nat) (t : Trace) :
    checkTimes (⟨time, .check⟩ :: t) = time :: checkTimes t := rfl

@[simp] theorem stampedLines_check (time : Nat) (t : Trace) :
    stampedLines (⟨time, .check⟩ :: t) = stampedLines t := rfl

@[simp] theorem lines_check (time : Nat) (t : Trace) : lines (⟨time, .check⟩ :: t) = lines t := rfl

@[simp] theorem checkTimes_logged (time : Nat) (entries : List Log.Entry) :
    checkTimes (entries.map fun entry => ⟨time, .line entry⟩) = [] := by
  simp [checkTimes]

@[simp] theorem stampedLines_logged (time : Nat) (entries : List Log.Entry) :
    stampedLines (entries.map fun entry => ⟨time, .line entry⟩)
      = entries.map fun entry => (time, entry) := by
  induction entries with
  | nil => rfl
  | cons entry entries ih => exact congrArg ((time, entry) :: ·) ih

@[simp] theorem lines_logged (time : Nat) (entries : List Log.Entry) :
    lines (entries.map fun entry => ⟨time, .line entry⟩) = entries := by
  induction entries with
  | nil => rfl
  | cons entry entries ih => exact congrArg (entry :: ·) ih

end Trace

end Preflight
