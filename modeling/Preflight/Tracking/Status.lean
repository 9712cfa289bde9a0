import Preflight.Fault
import Preflight.Log
import Preflight.Text.Quoted

/-!
The status of a sent call, as a tracker learns it from a stream of updates. The first terminal
update decides: nothing is consumed after it. A stream that ends without one makes the call fail.
-/

namespace Preflight

/-! ## 1. Statuses -/

inductive Status where
  -- sent, and in no block yet
  | pending
  | inBlock
  -- in a finalized block, and executed successfully
  | finalized
  -- the call can no longer be finalized
  | failed (reason : String)
  deriving DecidableEq, Repr

namespace Status

def isTerminal : Status → Bool
  | .pending => false
  | .inBlock => false
  | .finalized => true
  | .failed _ => true

-- the answer that a status gives to the question for finality
def reply : Status → Except Fault Bool
  | .pending => .ok false
  | .inBlock => .ok false
  | .finalized => .ok true
  | .failed reason => .error (.transaction reason)

def shown : Status → String
  | .pending => "Pending"
  | .inBlock => "InBlock"
  | .finalized => "Finalized"
  | .failed reason => s!"Failed({Text.Quoted.text reason})"

-- the status of a call whose updates ended too early
def ended : Status := .failed "status updates ended unexpectedly"

end Status

/-! ## 2. Trackers -/

/-- What a tracker is told. -/
inductive Notice where
  | update (status : Status)
  -- the stream of updates is at its end
  | ended
  deriving DecidableEq, Repr

def Notice.status : Notice → Status
  | .update status => status
  | .ended => .ended

def Notice.isLast : Notice → Bool
  | .update status => status.isTerminal
  | .ended => true

/-- The line that is logged when an update of the call with a hash is consumed. -/
def Notice.line? (hash : String) : Notice → Option Log.Entry
  | .update status => some ⟨.debug, Log.statusTopic, s!"Extrinsic {hash}: {status.shown}"⟩
  | .ended => none

/-- What is known of a sent call. -/
structure Tracker where
  status : Status := .pending
  -- whether the tracker has stopped listening
  closed : Bool := false
  deriving DecidableEq, Repr

namespace Tracker

def fresh : Tracker := {}

/-- Takes one notice in; a tracker that has stopped listening ignores it. -/
def consume (t : Tracker) (n : Notice) : Tracker :=
  if t.closed then t else ⟨n.status, n.isLast⟩

def consumeAll (t : Tracker) (ns : List Notice) : Tracker :=
  ns.foldl consume t

end Tracker

end Preflight
