import Preflight.Wait

/-!
Sent calls in memory, for rehearsing a wait: one that becomes final after a number of checks, one
that never does, one whose check fails, and one that answers by a script.
-/

namespace Preflight.Rehearsal

/-! ## 1. Transactions -/

/-- A sent call in memory. -/
structure Transaction where
  -- the number of checks that are not final, unless no check ever is
  pendingPolls : Option Nat := none
  -- what a check fails with, if it fails
  error : Option String := none
  -- the number of checks so far
  polls : Nat := 0
  deriving DecidableEq, Repr

namespace Transaction

def finalizedAfter (polls : Nat) : Transaction := { pendingPolls := some polls }

def neverFinalized : Transaction := {}

def failing (error : String) : Transaction := { error := some error }

def reply (t : Transaction) : Except Fault Bool :=
  match t.error with
  | some error => .error (.transaction error)
  | none =>
    match t.pendingPolls with
    | none => .ok false
    | some pending => .ok (decide (pending ≤ t.polls))

-- the count of checks is a word, and starts over behind the largest one
def pollLimit : Nat := Nat.pow 2 32

-- checks take no time, and each is counted
def watch : Watch Transaction :=
  fun t _ => ({ reply := t.reply }, { t with polls := (t.polls + 1) % pollLimit })

end Transaction

/-! ## 2. Scripts -/

/-- The checks that are left of a script. The last one repeats, and an empty script is never
final. -/
abbrev Script := List Check

namespace Script

def next : Script → Check × Script
  | [] => ({ reply := .ok false }, [])
  | [check] => (check, [check])
  | check :: rest => (check, rest)

def watch : Watch Script := fun s _ => s.next

end Script

end Preflight.Rehearsal
