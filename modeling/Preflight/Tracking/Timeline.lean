import Preflight.Tracking.Status
import Preflight.Wait

/-!
Updates of a sent call on a clock: each comes some time after the one before it, and behind the last
one the stream ends or stays silent. The status at a time is what a tracker knows that took in every
notice due by then.
-/

namespace Preflight

/-- The stream of updates of one sent call. -/
structure Timeline where
  -- each update with the time since the one before it
  updates : List (Nat × Status)
  -- whether the stream ends behind its last update
  ends : Bool := true
  deriving DecidableEq, Repr

namespace Timeline

/-! ## 1. Notices -/

/-- The notices of a stream that goes on at `time`, each with its own time. -/
def noticesFrom (ends : Bool) (time : Nat) : List (Nat × Status) → List (Nat × Notice)
  | [] => if ends then [(time, .ended)] else []
  | (wait, status) :: rest => (time + wait, .update status) :: noticesFrom ends (time + wait) rest

def notices (t : Timeline) : List (Nat × Notice) :=
  noticesFrom t.ends 0 t.updates

-- the notices up to the first after which nothing is consumed
def upToLast : List (Nat × Notice) → List (Nat × Notice)
  | [] => []
  | n :: rest => if n.2.isLast then [n] else n :: upToLast rest

def consumed (t : Timeline) : List (Nat × Notice) :=
  upToLast t.notices

/-! ## 2. Statuses and lines -/

def trackerAt (t : Timeline) (time : Nat) : Tracker :=
  Tracker.fresh.consumeAll ((t.notices.filter (·.1 ≤ time)).map Prod.snd)

def statusAt (t : Timeline) (time : Nat) : Status :=
  (t.trackerAt time).status

/-- The lines that are logged for a call with a hash, with their times. -/
def lines (t : Timeline) (hash : String) : List (Nat × Log.Entry) :=
  t.consumed.filterMap fun n => (n.2.line? hash).map fun entry => (n.1, entry)

/-- Checks of the call by a wait that starts at a time. A check takes no time. -/
def watchFrom (t : Timeline) (time : Nat) : Watch Unit :=
  fun _ elapsed => ({ reply := (t.statusAt (time + elapsed)).reply }, ())

/-! ## 3. Looking at a call -/

/-- What is done before a look at a call. -/
inductive Step where
  | look
  -- time passes
  | advance (nanos : Nat)
  -- the call is waited for
  | await (config : Config)

/-- What a look at a call shows. -/
structure Sight where
  -- how the wait before the look ended, if there was one
  verdict : Option (Except Fault Unit)
  status : Status
  -- the time since the call was sent
  time : Nat
  -- the lines that were logged since the look before
  lines : List Log.Entry

def Sight.isFinalized (s : Sight) : Except Fault Bool := s.status.reply

/-- Joins two lists that are in the order of their times. Of equal times the first list goes
first. -/
def mergeByTime (a b : List (Nat × Log.Entry)) : List (Nat × Log.Entry) :=
  a.merge b fun x y => x.1 ≤ y.1

def firstSight (t : Timeline) (hash : String) : Sight where
  verdict := none
  status := t.statusAt 0
  time := 0
  lines := ((t.lines hash).filter (·.1 = 0)).map Prod.snd

/-- The look at time `now` after one at time `before`, with the lines of a wait in between. -/
def sightAt (t : Timeline) (hash : String) (before now : Nat) (verdict : Option (Except Fault Unit))
    (waited : List (Nat × Log.Entry)) : Sight where
  verdict := verdict
  status := t.statusAt now
  time := now
  lines :=
    (mergeByTime ((t.lines hash).filter fun e => before < e.1 && e.1 ≤ now) waited).map Prod.snd

/-- The look after a step that begins at a time; a wait may make `checks` checks. -/
def sight (t : Timeline) (hash : String) (checks : Nat) (time : Nat) : Step → Option Sight
  | .look => some (t.sightAt hash time time none [])
  | .advance nanos => some (t.sightAt hash time (time + nanos) none [])
  | .await config =>
    match Wait.run checks config none (t.watchFrom time) () with
    | none => none
    | some outcome =>
      some (t.sightAt hash time (time + outcome.time) (some outcome.verdict)
        (outcome.trace.later time).stampedLines)

/-- The looks after each of some steps, of which the first begins at a time. -/
def sightsFrom (t : Timeline) (hash : String) (checks : Nat) (time : Nat) :
    List Step → Option (List Sight)
  | [] => some []
  | step :: steps =>
    match t.sight hash checks time step with
    | none => none
    | some s => (s :: ·) <$> sightsFrom t hash checks s.time steps

-- the look at the start and the looks after each step
def sights (t : Timeline) (hash : String) (checks : Nat) (steps : List Step) :
    Option (List Sight) :=
  (t.firstSight hash :: ·) <$> t.sightsFrom hash checks 0 steps

end Timeline

end Preflight
