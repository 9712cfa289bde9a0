import Preflight.Fault
import Preflight.Numeral.Unsigned
import Preflight.Policy
import Preflight.Text.Blank
import Preflight.Text.Utf8

/-!
Configurations from environment variables. Each of four variables replaces one field of the
standard configuration; a variable that is unset or not UTF-8 replaces nothing. The numbers are read
in a fixed order, and the first bad one is reported.
-/

namespace Preflight

namespace Environment

/-! ## 1. Variables -/

/-- Variables with their raw values, of which the first of one name counts. -/
abbrev Variables := List (String × List UInt8)

def modeVariable : String := "POP_TX_ENV"

def pollIntervalVariable : String := "POP_TX_POLL_INTERVAL_MS"

def maxAttemptsVariable : String := "POP_TX_MAX_ATTEMPTS"

def timeoutVariable : String := "POP_TX_TIMEOUT_MS"

def lookUp (env : Variables) (name : String) : Option (List Char) :=
  match env.lookup name with
  | none => none
  | some bytes => (Text.Utf8.decode bytes).toOption

/-- The number that a variable holds, below `bound`, if the variable is set. -/
def number (env : Variables) (name : String) (bound : Nat) : Except Fault (Option Nat) :=
  match lookUp env name with
  | none => .ok none
  | some value =>
    match Numeral.readUnsigned bound (Text.trim value) with
    | .ok n => .ok (some n)
    | .error e => .error (.config s!"Invalid value for {name}: {e.message}")

/-! ## 2. Configurations -/

/-- The mode that a text names: test for the word `test` in any case of its ASCII letters, live for
everything else. -/
def modeOf (value : List Char) : Mode :=
  if (Text.trim value).map Char.toLower = ['t', 'e', 's', 't'] then .test else .live

end Environment

open Environment

def Config.ofEnvironment (env : Variables) : Except Fault Config := do
  let mode := match lookUp env modeVariable with
    | some value => modeOf value
    | none => .live
  let poll ← number env pollIntervalVariable (Nat.pow 2 64)
  let attempts ← number env maxAttemptsVariable (Nat.pow 2 32)
  let timeout ← number env timeoutVariable (Nat.pow 2 64)
  let standard := Policy.standard
  return {
    mode := mode
    finalization := {
      pollInterval := match poll with
        | some ms => .ofMillis (UInt64.ofNat ms)
        | none => standard.pollInterval
      backoff := standard.backoff
      maxInterval := standard.maxInterval
      maxAttempts := match attempts with
        | some n => some (UInt32.ofNat n)
        | none => standard.maxAttempts
      timeout := match timeout with
        | some ms => some (.ofMillis (UInt64.ofNat ms))
        | none => standard.timeout } }

end Preflight
