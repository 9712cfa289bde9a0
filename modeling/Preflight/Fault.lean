import Preflight.Duration

/-!
What can go wrong with a call, and the message of each fault. Every constructor is one cause; the
text that it carries says what was wrong in particular.
-/

namespace Preflight

/-- The simulation of a call that kept it from being sent. -/
structure Refusal where
  contract : String
  method : String
  -- the arguments as one text
  args : String
  reason : String
  deriving DecidableEq, Repr

inductive Fault where
  -- the call could not be set up
  | setUp (detail : String)
  | address (detail : String)
  | balance (detail : String)
  | config (detail : String)
  -- the wait for finalization was called off
  | cancelled
  -- the bounds of the wait for finalization were used up
  | timedOut (attempts : Nat) (elapsed : Nat)
  | hex (detail : String)
  -- a file could not be reached or read
  | file (detail : String)
  | keyPair (detail : String)
  | overflow (detail : String)
  | secretUri (detail : String)
  -- the simulation failed, so that nothing was sent
  | refused (refusal : Refusal)
  | text (detail : String)
  | transaction (detail : String)
  deriving DecidableEq, Repr

namespace Fault

def message : Fault → String
  | setUp detail => s!"Anyhow error: {detail}"
  | address detail => s!"Failed to parse account address: {detail}"
  | balance detail => s!"Failed to parse balance: {detail}"
  | config detail => s!"Configuration error: {detail}"
  | cancelled => "Waiting for finalization was cancelled"
  | timedOut attempts elapsed =>
    s!"Transaction not finalized after {attempts} attempts ({Nanos.text elapsed})"
  | hex detail => s!"Failed to parse hex encoded bytes: {detail}"
  | file detail => s!"IO error: {detail}"
  | keyPair detail => s!"Failed to create keypair from URI: {detail}"
  | overflow detail => s!"Arithmetic overflow: {detail}"
  | secretUri detail => s!"Failed to parse secret URI: {detail}"
  | refused r =>
    s!"Pre-submission dry-run of {r.contract}.{r.method}({r.args}) failed: {r.reason}"
  | text detail => s!"Failed to decode text: {detail}"
  | transaction detail => s!"Transaction failed: {detail}"

end Fault

end Preflight
