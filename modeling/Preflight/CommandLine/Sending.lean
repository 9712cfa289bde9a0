import Preflight.CommandLine.Command
import Preflight.Document
import Preflight.Environment

/-!
Carrying out `send`. Everything that is given is checked in a fixed order before the call is
previewed: the configuration, the storage deposit limit, the signer, the address and the value.
-/

namespace Preflight.CommandLine

open Files (Tree)

/-- What carrying out a command logs, and the text or the fault that it ends with. -/
structure Report where
  lines : List Log.Entry := []
  result : Except Fault String

namespace Send

/-! ## 1. What is checked -/

/-- The configuration from the given file, or else from the environment. -/
def configuration (s : Send) (env : Environment.Variables) (tree : Tree) : Except Fault Config :=
  match s.config with
  | some path => Config.ofFile tree path
  | none => Config.ofEnvironment env

-- the given limits; those that are not given have their defaults
def options (s : Send) : Except Fault CallOptions :=
  let standard := CallOptions.standard.withGasLimit (.build s.refTime s.proofSize)
  match s.storageDepositLimit with
  | none => .ok standard
  | some text => (Balance.parse text).map standard.withStorageDepositLimit

def deployment (s : Send) : Deployment where
  path := s.path
  address := s.address
  name := s.name
  url := s.url
  suri := s.suri
  value := s.value

def paths (s : Send) : List Files.Path := s.config.toList ++ Deployed.paths s.path

def call (s : Send) : Call where
  method := s.message
  args := s.args

-- the limits of the call and the contract that is called
def checked (s : Send) (tree : Tree) : Except Fault (CallOptions × Deployed) := do
  let options ← s.options
  let contract ← Deployed.ofDeployment tree s.deployment
  return (options, contract)

/-! ## 2. Sending -/

def usingLine (config : Config) : Log.Entry :=
  ⟨.debug, Log.sendTopic, s!"Using {config.shown}"⟩

/-- Checks what is given, and previews and sends the call, making at most `checks` checks of its
finality; `none` if that takes more of them. What fails a check leaves the world as it is. -/
def attempt {World Handle : Type} (node : Deployed.Node World Handle) (world : World)
    (checks : Nat) (env : Environment.Variables) (tree : Tree) (s : Send) :
    Option (Client.Sending World String) :=
  match s.configuration env tree with
  | .error fault => some { result := .error fault, time := 0, trace := [], world }
  | .ok config =>
    let opening : Trace := [⟨0, .line (usingLine config)⟩]
    match s.checked tree with
    | .error fault => some { result := .error fault, time := 0, trace := opening, world }
    | .ok (options, contract) =>
      ((contract.client tree node).previewAndSend checks s.call options config world).map
        fun sending =>
          { result := sending.result.map fun handle => s!"extrinsic: {node.receipt handle}"
            time := sending.time
            trace := opening ++ sending.trace
            world := sending.world }

def run {World Handle : Type} (node : Deployed.Node World Handle) (world : World) (checks : Nat)
    (env : Environment.Variables) (tree : Tree) (s : Send) : Option Report :=
  (s.attempt node world checks env tree).map fun sending =>
    { lines := sending.trace.lines, result := sending.result }

end Send

end Preflight.CommandLine
