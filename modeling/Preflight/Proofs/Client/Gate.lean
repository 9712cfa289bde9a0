import Preflight.Proofs.Client.Effects
import Preflight.Proofs.DryRun.Rendered
import Preflight.Rehearsal.Contract

/-!
What keeps a call from being sent when its simulation returned a value. The value and the outcome are
searched for an error one after the other, and the second search finds what the first one found. So
the call is sent exactly if there is no error in the value.
-/

namespace Preflight.Client

variable {World Handle : Type}

/-- The calls that a client was asked to send, each with its options. -/
def submissions (record : List (Request Handle)) : List (Call × CallOptions) :=
  record.filterMap fun
    | .submit call options => some (call, options)
    | _ => none

theorem submissions_append (a b : List (Request Handle)) :
    submissions (a ++ b) = submissions a ++ submissions b :=
  List.filterMap_append

theorem submissions_checks (handleAt : Nat → Handle) (ns : List Nat) :
    submissions (ns.map fun n => .check (handleAt n)) = [] := by
  induction ns with
  | nil => rfl
  | cons n ns ih => exact ih

variable (client : Client World Handle) (checks : Nat) (call : Call) (options : CallOptions)
  (config : Config) (world : World)

-- Sending asks the client for nothing but the call itself, and the wait only for checks.
theorem submissions_recorded :
    submissions (client.recorded.progress checks call options config (world, [])).world.2 =
      match objection (client.query call world).1 with
      | some _ => []
      | none => [(call, options)] := by
  cases h : objection (client.query call world).1 with
  | some reason =>
    rw [client.recorded.progress_of_objection checks call options config (world, []) h]
    rfl
  | none =>
    cases hsent : (client.submit call options (client.query call world).2).1 with
    | error fault =>
      rw [client.recorded.progress_of_submit_error checks call options config (world, []) h hsent]
      rfl
    | ok handle =>
      rw [client.recorded.progress_of_submit_ok checks call options config (world, []) h hsent,
        settle_world]
      rcases client.exists_checks_recorded checks config
        (client.submit call options (client.query call world).2).2 handle
        [.query call, .submit call options] with ⟨made, -, hrecord, -⟩
      have hchecks := congrArg submissions hrecord
      rw [submissions_append, submissions_checks] at hchecks
      exact hchecks

/-- The two searches for an error agree on every returned value, so sending is decided by the value
alone. Whatever text a value is rendered as, the outcome of its simulation reports the error that is
in the value, unchanged, and none if there is none. A client that answers with this outcome is asked
to send the call, once and with its options, if there is no error in the value, and is asked to send
nothing otherwise; then the call is refused with the error of the value as its reason. -/
theorem returning_gate (rendered : String) :
    (DryRun.returning rendered).errorPayload = DryRun.renderedError rendered ∧
    ∀ {World Handle : Type} (client : Client World Handle) (checks : Nat) (call : Call)
      (options : CallOptions) (config : Config) (world : World),
      (client.query call world).1 = .ok (.returning rendered) →
      submissions (client.recorded.progress checks call options config (world, [])).world.2 =
        (match DryRun.renderedError rendered with
          | none => [(call, options)]
          | some _ => []) ∧
      ∀ reason, DryRun.renderedError rendered = some reason →
        (client.previewAndSend checks call options config world).map Sending.result =
          some (.error (.refused
            { contract := client.name, method := call.method, args := call.argsText, reason })) := by
  have hsame := DryRun.errorPayload_returning rendered
  refine ⟨hsame, ?_⟩
  intro World Handle client checks call options config world hanswer
  have hobjection : objection (client.query call world).1 = DryRun.renderedError rendered := by
    rw [hanswer, ← errorPayload_eq_objection, hsame]
  refine ⟨?_, ?_⟩
  · rw [submissions_recorded, hobjection]
    cases DryRun.renderedError rendered with
    | none => rfl
    | some reason => rfl
  · intro reason hreason
    rw [previewAndSend, client.progress_of_objection checks call options config world
      (hobjection.trans hreason)]
    rfl

/-- A contract whose messages return an error in two wrappers, with blanks between them. -/
def denyingPool : Rehearsal.Contract where
  name := "pool"
  dryRun := .returning " Ok( Ok(Err(Denied)) )"

/-- The call is not sent, and the reason is the error without its wrappers. -/
theorem returning_gate_denyingPool :
    let call : Call := ⟨"mint", ["1"]⟩
    (denyingPool.client.query call {}).1 = .ok (.returning " Ok( Ok(Err(Denied)) )") ∧
    DryRun.renderedError " Ok( Ok(Err(Denied)) )" = some "Err(Denied)" ∧
    submissions (denyingPool.client.recorded.progress 1 call .standard .standard ({}, [])).world.2
      = [] ∧
    (denyingPool.client.previewAndSend 1 call .standard .standard {}).map Sending.result =
      some (.error (.refused ⟨"pool", "mint", call.argsText, "Err(Denied)"⟩)) := by
  intro call
  have hanswer : (denyingPool.client.query call {}).1 = .ok (.returning " Ok( Ok(Err(Denied)) )") :=
    rfl
  have hreason : DryRun.renderedError " Ok( Ok(Err(Denied)) )" = some "Err(Denied)" := by
    decide +kernel
  rcases (returning_gate " Ok( Ok(Err(Denied)) )").2 denyingPool.client 1 call .standard .standard {}
    hanswer with ⟨hasked, hrefused⟩
  rw [hreason] at hasked
  exact ⟨hanswer, hreason, hasked, hrefused "Err(Denied)" hreason⟩

end Preflight.Client
