import Preflight.DryRun
import Preflight.Wait

/-!
Calling a contract through a client: simulating a call, and sending it once the simulation reports
no error. A client is what can simulate, send and check; what it does may depend on everything that
it did before, which is the world that it hands on. Simulating and sending take no time of their
own.
-/

namespace Preflight

/-- A deployed contract that can be called by the names of its messages. -/
structure Client (World Handle : Type) where
  /-- The name that the contract is shown under. -/
  name : String
  query : Call → World → Except Fault DryRun × World
  submit : Call → CallOptions → World → Except Fault Handle × World
  /-- Checks whether what was sent is final. -/
  watch : Watch (Handle × World)

namespace Client

variable {World Handle : Type}

/-! ## 1. Previews -/

def refusal (client : Client World Handle) (call : Call) (reason : String) : Refusal where
  contract := client.name
  method := call.method
  args := call.argsText
  reason := reason

def refusalLine (client : Client World Handle) (call : Call) (reason : String) : Log.Entry :=
  ⟨.debug, Log.callTopic, s!"Dry-run of {client.name}.{call.method} failed: {reason}"⟩

structure Preview (World : Type) where
  result : Except Fault DryRun
  trace : Trace
  world : World

/-- Keeps a call from being sent, for a reason that is logged. -/
def refuse (client : Client World Handle) (call : Call) (reason : String) :
    Except Fault DryRun × List Log.Entry :=
  (.error (.refused (client.refusal call reason)), [client.refusalLine call reason])

/-- The verdict on the answer to a simulation, and the lines that are logged with it. -/
def judge (client : Client World Handle) (call : Call) (answer : Except Fault DryRun) :
    Except Fault DryRun × List Log.Entry :=
  match answer with
  | .error fault => client.refuse call fault.message
  | .ok outcome =>
    match outcome.errorPayload with
    | none => (.ok outcome, [])
    | some reason => client.refuse call reason

/-- Simulates a call, and fails if the simulation fails or reports an error. -/
def preview (client : Client World Handle) (call : Call) (world : World) : Preview World :=
  let (answer, world) := client.query call world
  let (result, lines) := client.judge call answer
  { result
    trace := ⟨0, .query call⟩ :: lines.map fun entry => ⟨0, .line entry⟩
    world }

/-! ## 2. Sending -/

structure Sending (World Handle : Type) where
  result : Except Fault Handle
  time : Nat
  trace : Trace
  world : World

def successLine (client : Client World Handle) (call : Call) : Log.Entry :=
  ⟨.info, Log.mainTopic, call.successMessage client.name⟩

/-- How far the sending of a call came. -/
inductive Progress (World Handle : Type) where
  /-- It is not known yet whether what was sent is final. -/
  | waiting (trace : Trace) (handle : Handle) (world : World)
  | done (sending : Sending World Handle)

namespace Progress

def trace : Progress World Handle → Trace
  | waiting trace _ _ => trace
  | done sending => sending.trace

def world : Progress World Handle → World
  | waiting _ _ world => world
  | done sending => sending.world

def sending? : Progress World Handle → Option (Sending World Handle)
  | waiting _ _ _ => none
  | done sending => some sending

def behind (before : Trace) : Progress World Handle → Progress World Handle
  | waiting trace handle world => waiting (before ++ trace) handle world
  | done sending => done { sending with trace := before ++ sending.trace }

end Progress

/-- What a stage of the wait for a sent call means for its sending. The success is logged when the
wait ends well. -/
def settle (client : Client World Handle) (call : Call) :
    Wait.Stage (Handle × World) → Progress World Handle
  | .waiting _ trace state => .waiting trace state.1 state.2
  | .ended outcome =>
    match outcome.verdict with
    | .error fault => .done ⟨.error fault, outcome.time, outcome.trace, outcome.state.2⟩
    | .ok () =>
      .done ⟨.ok outcome.state.1, outcome.time,
        outcome.trace ++ [⟨outcome.time, .line (client.successLine call)⟩], outcome.state.2⟩

/-- How far it comes to simulate a call and, if the simulation reports no error, to send it and wait
until it is final, making at most `checks` checks. -/
def progress (client : Client World Handle) (checks : Nat) (call : Call) (options : CallOptions)
    (config : Config) (world : World) : Progress World Handle :=
  let seen := client.preview call world
  match seen.result with
  | .error fault => .done ⟨.error fault, 0, seen.trace, seen.world⟩
  | .ok _ =>
    let sent := client.submit call options seen.world
    let before := seen.trace ++ [⟨0, .submit call options⟩]
    match sent.1 with
    | .error fault => .done ⟨.error fault, 0, before, sent.2⟩
    | .ok handle =>
      (client.settle call (Wait.stage checks config none client.watch (handle, sent.2))).behind
        before

/-- Simulates a call and, if the simulation reports no error, sends it and waits until it is final;
`none` if that takes more than `checks` checks. -/
def previewAndSend (client : Client World Handle) (checks : Nat) (call : Call)
    (options : CallOptions) (config : Config) (world : World) : Option (Sending World Handle) :=
  (client.progress checks call options config world).sending?

def previewAndSendWithDefaults (client : Client World Handle) (checks : Nat) (call : Call)
    (config : Config) (world : World) : Option (Sending World Handle) :=
  client.previewAndSend checks call .standard config world

end Client

end Preflight
