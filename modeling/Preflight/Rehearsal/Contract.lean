import Preflight.Client
import Preflight.Rehearsal.Transaction

/-!
A contract in memory that records every simulated and every sent call, and sessions of calls on
one such contract.
-/

namespace Preflight.Rehearsal

/-! ## 1. Contracts -/

/-- How a contract in memory behaves. -/
structure Contract where
  name : String
  -- what simulations report
  dryRun : DryRun := .success "Ok(())"
  -- what simulations fail with, if they fail
  queryError : Option String := none
  -- what sending fails with, if it fails
  submitError : Option String := none
  -- the number of checks after which a sent call is final
  pendingPolls : Nat := 0
  deriving DecidableEq, Repr

/-- The calls that a contract recorded, in order. -/
structure History where
  queries : List Call := []
  sent : List (Call × CallOptions) := []
  deriving DecidableEq, Repr

namespace Contract

def answer (c : Contract) : Except Fault DryRun :=
  match c.queryError with
  | some error => .error (.setUp error)
  | none => .ok c.dryRun

/-- The contract as a client. Simulations are recorded before they answer, sent calls only when
sending does not fail. -/
def client (c : Contract) : Client History Transaction where
  name := c.name
  query call h := (c.answer, { h with queries := h.queries ++ [call] })
  submit call options h :=
    match c.submitError with
    | some error => (.error (.transaction error), h)
    | none =>
      (.ok (.finalizedAfter c.pendingPolls), { h with sent := h.sent ++ [(call, options)] })
  watch s time :=
    let (check, t) := Transaction.watch s.1 time
    (check, (t, s.2))

end Contract

/-! ## 2. Sessions -/

/-- What is asked of a contract. -/
inductive Request where
  | preview (call : Call)
  | send (call : Call) (options : CallOptions) (config : Config)
  | sendWithDefaults (call : Call) (config : Config)

/-- What a request gave. -/
inductive Response where
  | previewed (outcome : DryRun)
  | sent (transaction : Transaction)
  deriving DecidableEq, Repr

/-- What is known after a request. -/
structure Report where
  result : Except Fault Response
  -- what the contract recorded so far
  history : History
  -- the time that the request took
  time : Nat
  trace : Trace

namespace Contract

def reportOf (s : Client.Sending History Transaction) : Report where
  result := s.result.map .sent
  history := s.world
  time := s.time
  trace := s.trace

-- serves one request; a wait may make `checks` checks
def serve (c : Contract) (checks : Nat) (h : History) : Request → Option Report
  | .preview call =>
    let seen := c.client.preview call h
    some ⟨seen.result.map .previewed, seen.world, 0, seen.trace⟩
  | .send call options config =>
    (c.client.previewAndSend checks call options config h).map reportOf
  | .sendWithDefaults call config =>
    (c.client.previewAndSendWithDefaults checks call config h).map reportOf

/-- Serves requests in order, each on the history that the ones before it left. -/
def session (c : Contract) (checks : Nat) (h : History) : List Request → Option (List Report)
  | [] => some []
  | request :: rest =>
    match c.serve checks h request with
    | none => none
    | some report => (report :: ·) <$> c.session checks report.history rest

end Contract

end Preflight.Rehearsal
