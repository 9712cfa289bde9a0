import Preflight.Proofs.CommandLine.Running
import Preflight.Proofs.Steps

/-!
What is checked before a call is previewed. The checks come in a fixed order, and the first one that
fails ends the run with its fault: the node is not asked for anything, and the files of the contract
do not matter. If none fails, the call is previewed and sent once, with what was given. Where the
configuration comes from a file, the variables for it do not matter either.
-/

namespace Preflight.CommandLine

open Files (Tree)

/-! ## 1. Checks -/

/-- What is checked before a call is previewed. -/
inductive Check where
  | configuration
  | depositLimit
  | signer
  | address
  | value
  deriving DecidableEq, Repr

namespace Check

/-- The checks of what goes with the call. -/
def ofCall : List Check := [depositLimit, signer, address, value]

def inOrder : List Check := configuration :: ofCall

end Check

/-- The fault that something ends with, if it does. -/
def faultOf {α : Type} : Except Fault α → Option Fault
  | .ok _ => none
  | .error fault => some fault

namespace Send

/-- The storage deposit limit that is given, or else one whole token. -/
def depositLimit (s : Send) : Except Fault Balance :=
  match s.storageDepositLimit with
  | none => .ok Balance.oneUnit
  | some text => Balance.parse text

/-- The limits of the call, with this storage deposit limit. -/
def optionsWith (s : Send) (limit : Balance) : CallOptions where
  storageDepositLimit := limit
  gasLimit := .build s.refTime s.proofSize

/-- The configuration that a call is sent with: what the text of the given file says, if it can be
read, or else what the variables say. -/
def loaded (s : Send) (env : Environment.Variables) (tree : Tree) : Except Fault Config :=
  match s.config with
  | some path =>
    match tree.readText path with
    | .ok document => Config.ofDocument document
    | .error e => .error (.file e.message)
  | none => Config.ofEnvironment env

/-- The fault that a check reports, whether or not another check fails too. -/
def fault? (s : Send) (env : Environment.Variables) (tree : Tree) : Check → Option Fault
  | .configuration => faultOf (s.loaded env tree)
  | .depositLimit => faultOf s.depositLimit
  | .signer => faultOf (Key.Pair.ofUri s.suri)
  | .address => faultOf (Address.parse s.address)
  | .value => faultOf (Transfer.parse s.value)

/-- The fault of the first check that fails. -/
def firstFault (s : Send) (env : Environment.Variables) (tree : Tree) : Option Fault :=
  Check.inOrder.findSome? (s.fault? env tree)

/-- What is logged before the call is checked. -/
def opening (s : Send) (env : Environment.Variables) (tree : Tree) : List Log.Entry :=
  match s.loaded env tree with
  | .ok config => [usingLine config]
  | .error _ => []

theorem configuration_eq (s : Send) (env : Environment.Variables) (tree : Tree) :
    s.configuration env tree = s.loaded env tree := by
  unfold configuration loaded
  cases s.config with
  | none => rfl
  | some path =>
    dsimp only
    unfold Config.ofFile
    cases tree.readText path <;> rfl

theorem options_eq (s : Send) : s.options = s.depositLimit.map s.optionsWith := by
  rw [options, depositLimit]
  cases s.storageDepositLimit with
  | none => rfl
  | some text => cases Balance.parse text <;> rfl

/-- The contract that is called, from what was read of it. -/
def contractWith (s : Send) (tree : Tree) (signer : Key.Pair) (address : Address)
    (value : Transfer) : Deployed where
  path := s.path
  name := s.name.getD (Deployment.nameOf tree s.path)
  address := address
  url := s.url
  signer := signer
  value := value

variable (s : Send) (env : Environment.Variables) (tree : Tree)

-- One case for each check that may be the first to fail, and one for none.
theorem checked_cases :
    (∃ fault, Check.ofCall.findSome? (s.fault? env tree) = some fault ∧
      s.checked tree = .error fault) ∨
    (Check.ofCall.findSome? (s.fault? env tree) = none ∧
      ∃ limit signer address value, s.depositLimit = .ok limit ∧
        Key.Pair.ofUri s.suri = .ok signer ∧ Address.parse s.address = .ok address ∧
        Transfer.parse s.value = .ok value ∧
        s.checked tree =
          .ok (s.optionsWith limit, s.contractWith tree signer address value)) := by
  rw [checked, options_eq, Deployed.ofDeployment]
  simp only [Check.ofCall, List.findSome?_cons, List.findSome?_nil, fault?, deployment]
  cases s.depositLimit with
  | error fault => exact .inl ⟨fault, rfl, rfl⟩
  | ok limit =>
    cases Key.Pair.ofUri s.suri with
    | error fault => exact .inl ⟨fault, rfl, rfl⟩
    | ok signer =>
      cases Address.parse s.address with
      | error fault => exact .inl ⟨fault, rfl, rfl⟩
      | ok address =>
        cases Transfer.parse s.value with
        | error fault => exact .inl ⟨fault, rfl, rfl⟩
        | ok value => exact .inr ⟨rfl, limit, signer, address, value, rfl, rfl, rfl, rfl, rfl⟩

theorem firstFault_of_loaded_error {fault : Fault}
    (h : s.loaded env tree = .error fault) : s.firstFault env tree = some fault := by
  rw [firstFault, Check.inOrder, List.findSome?_cons, fault?, h]
  rfl

theorem firstFault_of_loaded_ok {config : Config}
    (h : s.loaded env tree = .ok config) :
    s.firstFault env tree = Check.ofCall.findSome? (s.fault? env tree) := by
  rw [firstFault, Check.inOrder, List.findSome?_cons, fault?, h]
  rfl

/-! ## 2. Attempts -/

variable {World Handle : Type} (node : Deployed.Node World Handle) (world : World) (checks : Nat)

/-- A failed check ends the attempt before the node is asked for anything. -/
theorem attempt_of_firstFault {fault : Fault} (h : s.firstFault env tree = some fault) :
    s.attempt node world checks env tree = some
      { result := .error fault
        time := 0
        trace := (s.opening env tree).map fun entry => ⟨0, .line entry⟩
        world } := by
  rw [attempt, opening, configuration_eq]
  cases hconfig : s.loaded env tree with
  | error fault' =>
    rw [s.firstFault_of_loaded_error env tree hconfig] at h
    cases h
    rfl
  | ok config =>
    rw [s.firstFault_of_loaded_ok env tree hconfig] at h
    rcases s.checked_cases env tree with ⟨fault', hfault, hchecked⟩ | ⟨hnone, -⟩
    · rw [hfault] at h
      cases h
      simp only [hchecked]
      rfl
    · rw [hnone] at h
      cases h

theorem attempt_of_no_fault (h : s.firstFault env tree = none) :
    ∃ config limit signer address value, s.loaded env tree = .ok config ∧
      s.depositLimit = .ok limit ∧ Key.Pair.ofUri s.suri = .ok signer ∧
      Address.parse s.address = .ok address ∧ Transfer.parse s.value = .ok value ∧
      ∀ {World Handle : Type} (node : Deployed.Node World Handle) (world : World) (checks : Nat),
        s.attempt node world checks env tree =
          (((s.contractWith tree signer address value).client tree node).previewAndSend checks
            s.call (s.optionsWith limit) config world).map fun sending =>
            { result := sending.result.map fun handle => s!"extrinsic: {node.receipt handle}"
              time := sending.time
              trace := ⟨0, .line (usingLine config)⟩ :: sending.trace
              world := sending.world } := by
  cases hconfig : s.loaded env tree with
  | error fault =>
    rw [s.firstFault_of_loaded_error env tree hconfig] at h
    cases h
  | ok config =>
    rw [s.firstFault_of_loaded_ok env tree hconfig] at h
    rcases s.checked_cases env tree with ⟨fault, hfault, -⟩ |
      ⟨-, limit, signer, address, value, hlimit, hsigner, haddress, hvalue, hchecked⟩
    · rw [hfault] at h
      cases h
    · refine ⟨config, limit, signer, address, value, rfl, hlimit, hsigner, haddress, hvalue, ?_⟩
      intro World Handle node world checks
      rw [attempt, configuration_eq, hconfig]
      simp only [hchecked]
      rfl

/-- An attempt depends on the environment only through the configuration. -/
theorem attempt_congr {env' : Environment.Variables}
    (h : s.loaded env' tree = s.loaded env tree) :
    s.attempt node world checks env' tree = s.attempt node world checks env tree := by
  rw [attempt, attempt, configuration_eq, configuration_eq, h]

-- All that a configuration takes from the files is the one that it is read from.
theorem loaded_congr {tree' : Tree}
    (h : ∀ path, s.config = some path → tree'.readText path = tree.readText path) :
    s.loaded env tree' = s.loaded env tree := by
  unfold loaded
  cases hpath : s.config with
  | none => rfl
  | some path =>
    dsimp only
    rw [h path hpath]

theorem firstFault_congr {tree' : Tree}
    (h : s.loaded env tree' = s.loaded env tree) :
    s.firstFault env tree' = s.firstFault env tree := by
  have hfault : s.fault? env tree' = s.fault? env tree := by
    funext check
    cases check with
    | configuration => rw [fault?, fault?, h]
    | depositLimit => rfl
    | signer => rfl
    | address => rfl
    | value => rfl
  rw [firstFault, firstFault, hfault]

theorem opening_congr {tree' : Tree} (h : s.loaded env tree' = s.loaded env tree) :
    s.opening env tree' = s.opening env tree := by
  rw [opening, opening, h]

end Send

/-! ## 3. Reading -/

/-- What is sent is what these values say, with the defaults for what they do not give. -/
structure Send.IsFrom (s : Send) (g : Given) : Prop where
  path_eq : g.path? "path" = some s.path
  address_eq : g.text? "contract" = some s.address
  message_eq : g.text? "message" = some s.message
  args_eq : g.texts "args" = s.args
  name_eq : g.text? "name" = s.name
  value_eq : (g.text? "value").getD "0" = s.value
  refTime_eq : g.count? "gas" = s.refTime
  proofSize_eq : g.count? "proof-size" = s.proofSize
  storageDepositLimit_eq : g.text? "storage-deposit-limit" = s.storageDepositLimit
  url_eq : (g.url? "url").getD Deployment.standardUrl = s.url
  suri_eq : (g.text? "suri").getD "//Alice" = s.suri
  config_eq : g.path? "config" = s.config

theorem required_eq_ok_iff {α : Type} {x : Option α} {a : α} :
    required x = .ok a ↔ x = some a := by
  cases x with
  | none => exact ⟨fun h => (nomatch h), fun h => nomatch h⟩
  | some b =>
    exact ⟨fun h => congrArg some (Except.ok.inj h), fun h => congrArg _ (Option.some.inj h)⟩

theorem Name.isFrom_of_sendOf {g : Given} {s : Send} (h : Name.sendOf g = .ok s) : s.IsFrom g := by
  simp only [Name.sendOf, bind_eq_ok_iff, required_eq_ok_iff] at h
  obtain ⟨path, hpath, address, haddress, message, hmessage, hs⟩ := h
  cases hs
  exact ⟨hpath, haddress, hmessage, rfl, rfl, rfl, rfl, rfl, rfl, rfl, rfl, rfl⟩

/-- A command line for `send` that can be read. -/
theorem Command.exists_of_read_send [Url.Domains] {words : List Raw} {s : Send}
    (h : Command.read words = .ok (.send s)) :
    ∃ word ∈ Name.send.spellings, ∃ rest g, words = Text.Utf8.bytes word :: rest ∧
      Name.sendForm.read rest = .ok g ∧ s.IsFrom g := by
  cases words with
  | nil => cases h
  | cons raw rest =>
    rw [Command.read] at h
    cases hname : Name.ofRaw? raw with
    | none =>
      rw [hname] at h
      dsimp only at h
      split at h
      · cases h
      · split at h <;> cases h
    | some name =>
      rw [hname] at h
      obtain ⟨g, hread, hcommand⟩ := bind_eq_ok_iff.mp h
      obtain ⟨word, hword, rfl⟩ := Name.ofRaw?_eq_some_iff.mp hname
      -- only `send` is read as such a command
      cases name with
      | percent =>
        obtain ⟨_, -, heq⟩ := bind_eq_ok_iff.mp hcommand
        cases heq
      | gasLimit => cases hcommand
      | decode =>
        obtain ⟨_, -, heq⟩ := bind_eq_ok_iff.mp hcommand
        cases heq
      | send =>
        obtain ⟨s', hs, heq⟩ := bind_eq_ok_iff.mp hcommand
        cases heq
        exact ⟨word, hword, rest, g, rfl, hread, Name.isFrom_of_sendOf hs⟩

/-! ## 4. Runs -/

/-- The variables that a configuration is made from where no file is given. -/
def configurationVariables : List String :=
  [Environment.modeVariable, Environment.pollIntervalVariable, Environment.maxAttemptsVariable,
    Environment.timeoutVariable]

theorem logFilter_congr {env env' : Environment.Variables}
    (h : ∀ name, name ∉ configurationVariables →
      Environment.lookUp env' name = Environment.lookUp env name) :
    logFilter env' = logFilter env := by
  rw [logFilter, logFilter, h logVariable (by decide)]

theorem exitIn_congr {env env' : Environment.Variables} (h : logFilter env' = logFilter env) :
    Report.exitIn env' = Report.exitIn env := by
  funext r
  rw [Report.exitIn, Report.exitIn, h]

section Runs

variable {World Handle : Type} (node : Deployed.Node World Handle) (world : World) (checks : Nat)
  (env : Environment.Variables) (tree : Tree) {words : List Raw} {s : Send}

theorem run_send [Url.Domains] (h : Command.read words = .ok (.send s)) :
    run node world checks env tree words =
      (s.attempt node world checks env tree).map fun sending =>
        Report.exitIn env { lines := sending.trace.lines, result := sending.result } := by
  rw [run_of_read node world checks env tree h, Command.run, Send.run, Option.map_map]
  rfl

theorem run_send_of_loaded [Url.Domains] (h : Command.read words = .ok (.send s))
    {env' : Environment.Variables} (hfilter : logFilter env' = logFilter env)
    (hconfig : s.loaded env' tree = s.loaded env tree) :
    run node world checks env' tree words = run node world checks env tree words := by
  rw [run_send node world checks env' tree h, run_send node world checks env tree h,
    s.attempt_congr env tree node world checks hconfig, exitIn_congr hfilter]

end Runs

/-- Everything that is given to `send` is checked, in a fixed order, before the call is previewed.
What is checked is what the words of the command line say. The first check that fails ends the run
with its fault, whatever the node does and whatever the files hold that the configuration is not read
from. If none fails, the given call is previewed and sent once, with the given limits or, for each
that is not given, its own default. The variables for the configuration do not matter where it is
read from a file. -/
theorem send_checked [Url.Domains] {words : List Raw} {s : Send}
    (h : Command.read words = .ok (.send s)) (env : Environment.Variables) (tree : Tree) :
    (∃ word ∈ Name.send.spellings, ∃ rest g, words = Text.Utf8.bytes word :: rest ∧
      Name.sendForm.read rest = .ok g ∧ s.IsFrom g ∧
      ∀ g', Written Name.sendForm [] g' rest → (g'.map Prod.fst).Nodup → g' = g) ∧
    (∀ fault, s.firstFault env tree = some fault →
      ∀ tree' : Tree, (∀ path, s.config = some path → tree'.readText path = tree.readText path) →
      ∀ {World Handle : Type} (node : Deployed.Node World Handle) (world : World) (checks : Nat),
        s.attempt node world checks env tree' = some
          { result := .error fault
            time := 0
            trace := (s.opening env tree).map fun entry => ⟨0, .line entry⟩
            world } ∧
        run node world checks env tree' words = some
          { code := 1
            stdout := ""
            stderr := unlines ((logFilter env).2.map warningText) ++
              (unlines (((s.opening env tree).filter (logFilter env).1.shows).map Log.Entry.text) ++
                faultText fault) }) ∧
    (s.firstFault env tree = none →
      ∃ config limit signer address value, s.loaded env tree = .ok config ∧
        s.depositLimit = .ok limit ∧ Key.Pair.ofUri s.suri = .ok signer ∧
        Address.parse s.address = .ok address ∧ Transfer.parse s.value = .ok value ∧
        ∀ {World Handle : Type} (node : Deployed.Node World Handle) (world : World) (checks : Nat),
          run node world checks env tree words =
            (((s.contractWith tree signer address value).client tree node).previewAndSend checks
              { method := s.message, args := s.args }
              { storageDepositLimit := limit
                gasLimit :=
                  { refTime := s.refTime.getD GasLimit.defaultRefTime
                    proofSize := s.proofSize.getD GasLimit.defaultProofSize } }
              config world).map fun sending =>
            Report.exitIn env
              { lines := Send.usingLine config :: sending.trace.lines
                result := sending.result.map fun handle => s!"extrinsic: {node.receipt handle}" }) ∧
    (s.config.isSome = true → ∀ env' : Environment.Variables,
      (∀ name, name ∉ configurationVariables →
        Environment.lookUp env' name = Environment.lookUp env name) →
      ∀ {World Handle : Type} (node : Deployed.Node World Handle) (world : World) (checks : Nat),
        run node world checks env' tree words = run node world checks env tree words) := by
  refine ⟨?_, ?_, ?_, ?_⟩
  · obtain ⟨word, hword, rest, g, hwords, hread, hfrom⟩ := Command.exists_of_read_send h
    refine ⟨word, hword, rest, g, hwords, hread, hfrom, ?_⟩
    intro g' hwritten hnew
    have hread' := Form.read_of_written hwritten hnew
    exact Except.ok.inj (hread'.symm.trans hread)
  · intro fault hfault tree' htree World Handle node world checks
    have hconfig := s.loaded_congr env tree htree
    rw [← s.firstFault_congr env tree hconfig] at hfault
    have hattempt := s.attempt_of_firstFault env tree' node world checks hfault
    rw [s.opening_congr env tree hconfig] at hattempt
    refine ⟨hattempt, ?_⟩
    rw [run_send node world checks env tree' h, hattempt, Option.map_some]
    simp only [Trace.lines_logged]
    rfl
  · intro hnone
    obtain ⟨config, limit, signer, address, value, hconfig, hlimit, hsigner, haddress, hvalue,
      hattempt⟩ := s.attempt_of_no_fault env tree hnone
    refine ⟨config, limit, signer, address, value, hconfig, hlimit, hsigner, haddress, hvalue, ?_⟩
    intro World Handle node world checks
    rw [run_send node world checks env tree h, hattempt node world checks, Option.map_map]
    rfl
  · intro hfile env' henv World Handle node world checks
    refine run_send_of_loaded node world checks env tree h (logFilter_congr henv) ?_
    obtain ⟨path, hpath⟩ := Option.isSome_iff_exists.mp hfile
    rw [Send.loaded, Send.loaded, hpath]

def mint : Send where
  path := Files.Path.ofString "pool.contract"
  address := "0x01"
  message := "mint"
  args := ["1", "2"]
  storageDepositLimit := some "all"

def configPath : Files.Path := Files.Path.ofString "pop.toml"

/-- The same call, with a configuration from a file. -/
def configuredMint : Send := { mint with config := some configPath }

/-- The options of a call, with the message named by its letter. -/
def mintGiven : Given :=
  [("path", [.path (Files.Path.ofString "pool.contract")]), ("contract", [.text "0x01"]),
    ("message", [.text "mint"]), ("args", [.text "1", .text "2"]),
    ("storage-deposit-limit", [.text "all"])]

def mintOptions : List Raw :=
  [dashed "path", Text.Utf8.bytes "pool.contract", dashed "contract", Text.Utf8.bytes "0x01",
    byLetter 'm' [], Text.Utf8.bytes "mint", dashed "args", Text.Utf8.bytes "1", Text.Utf8.bytes "2",
    joined "storage-deposit-limit" (Text.Utf8.bytes "all")]

section Mint

variable [Url.Domains]

-- Whatever options follow these.
theorem written_mint {g : Given} {words : List Raw} (h : Written Name.sendForm [] g words) :
    Written Name.sendForm [] (mintGiven ++ g) (mintOptions ++ words) := by
  have hpath : Gives Name.sendForm Name.sendForm.options[0]
      (.path (Files.Path.ofString "pool.contract"))
      [dashed "path", Text.Utf8.bytes "pool.contract"] :=
    .apart (.name (Name.hasOption .send (by decide))) rfl (by decide) rfl
  have haddress : Gives Name.sendForm Name.sendForm.options[1] (.text "0x01")
      [dashed "contract", Text.Utf8.bytes "0x01"] :=
    .apart (.name (Name.hasOption .send (by decide))) rfl (by decide) (Parameter.read_text rfl _)
  have hmessage : Gives Name.sendForm Name.sendForm.options[3] (.text "mint")
      [byLetter 'm' [], Text.Utf8.bytes "mint"] :=
    .apart (.letter (Name.hasLetter .send (by decide) rfl)) rfl (by decide)
      (Parameter.read_text rfl _)
  have hargs : Name.sendForm.Names Name.sendForm.options[4] (dashed "args") :=
    .name (Name.hasOption .send (by decide))
  have hlimit : Gives Name.sendForm Name.sendForm.options[8] (.text "all")
      [joined "storage-deposit-limit" (Text.Utf8.bytes "all")] :=
    .joined (.name (Name.hasOption .send (by decide))) (Parameter.read_text rfl _)
  have hreads : [Text.Utf8.bytes "1", Text.Utf8.bytes "2"].mapM Name.sendForm.options[4].read =
      .ok [.text "1", .text "2"] := by
    rw [List.mapM_cons, Parameter.read_text rfl, Reading.mapM_read_singleton
      (Parameter.read_text rfl _)]
    rfl
  have hlist : Written Name.sendForm []
      (("args", [.text "1", .text "2"]) :: ("storage-deposit-limit", [.text "all"]) :: g)
      ((dashed "args" :: [Text.Utf8.bytes "1", Text.Utf8.bytes "2"]) ++
        ([joined "storage-deposit-limit" (Text.Utf8.bytes "all")] ++ words)) :=
    .list hargs rfl (by decide) hreads (.option hlimit h)
  exact .option hpath (.option haddress (.option hmessage hlist))

theorem read_mint : Command.read (Text.Utf8.bytes "send" :: mintOptions) = .ok (.send mint) := by
  have hword : "send" ∈ Name.send.spellings := by decide
  have hread : Name.sendForm.read mintOptions = .ok mintGiven :=
    Form.read_of_written (written_mint .nil) (by decide)
  rw [Command.read_of_name hword, Name.form, hread]
  rfl

theorem read_configuredMint :
    Command.read (Text.Utf8.bytes "send" :: (mintOptions ++ [dashed "config", configPath])) =
      .ok (.send configuredMint) := by
  have hword : "send" ∈ Name.send.spellings := by decide
  have hconfig : Gives Name.sendForm Name.sendForm.options[11] (.path configPath)
      [dashed "config", configPath] :=
    .apart (.name (Name.hasOption .send (by decide))) rfl (by decide) rfl
  have hread : Name.sendForm.read (mintOptions ++ [dashed "config", configPath]) =
      .ok (mintGiven ++ [("config", [.path configPath])]) :=
    Form.read_of_written (written_mint (.option hconfig .nil)) (by decide)
  rw [Command.read_of_name hword, Name.form, hread]
  rfl

end Mint

/-- Neither the limit nor the address can be read, and what is wrong with the limit is shown. A
variable that holds no number is reported before both, and so is a file that must not be read; where
there is such a file, the variable does not matter. -/
theorem send_checked_mint :
    letI : Url.Domains := .plain
    let wrong : Environment.Variables := [(Environment.timeoutVariable, Text.Utf8.bytes "x")]
    let closed : Tree := ⟨[], [([configPath], .closedFile)]⟩
    let configured := Text.Utf8.bytes "send" :: (mintOptions ++ [dashed "config", configPath])
    Command.read (Text.Utf8.bytes "send" :: mintOptions) = .ok (.send mint) ∧
    mint.IsFrom mintGiven ∧
    run .unreachable () 0 [] ⟨[], []⟩ (Text.Utf8.bytes "send" :: mintOptions) = some
      { code := 1
        stderr := "Error: Failed to parse balance: all: invalid digit found in string\n" } ∧
    run .unreachable () 0 wrong ⟨[], []⟩ (Text.Utf8.bytes "send" :: mintOptions) = some
      { code := 1
        stderr := "Error: Configuration error: " ++
          "Invalid value for POP_TX_TIMEOUT_MS: invalid digit found in string\n" } ∧
    Command.read configured = .ok (.send configuredMint) ∧
    run .unreachable () 0 wrong closed configured = some
      { code := 1
        stderr := "Error: IO error: Permission denied (os error 13)\n\nCaused by:\n" ++
          "    Permission denied (os error 13)\n" } := by
  let _ : Url.Domains := .plain
  intro wrong closed configured
  have hlimit : mint.firstFault [] ⟨[], []⟩ =
      some (.balance "all: invalid digit found in string") := rfl
  have hvariable : mint.firstFault wrong ⟨[], []⟩ = some (.config
      "Invalid value for POP_TX_TIMEOUT_MS: invalid digit found in string") := by
    with_unfolding_all rfl
  have hfile : configuredMint.firstFault wrong closed =
      some (.file "Permission denied (os error 13)") := rfl
  refine ⟨read_mint, ?_, ?_, ?_, read_configuredMint, ?_⟩
  · obtain ⟨⟨_, _, rest, g, hwords, -, hfrom, hgiven⟩, -⟩ := send_checked read_mint [] ⟨[], []⟩
    have hrest : mintOptions = rest := (List.cons.inj hwords).2
    rw [← hgiven mintGiven (hrest ▸ written_mint .nil) (by decide)] at hfrom
    exact hfrom
  · obtain ⟨-, hchecked, -⟩ := send_checked read_mint [] ⟨[], []⟩
    have hrun := (hchecked _ hlimit ⟨[], []⟩ (fun _ _ => rfl) Deployed.Node.unreachable () 0).2
    rw [hrun]
    with_unfolding_all rfl
  · obtain ⟨-, hchecked, -⟩ := send_checked read_mint wrong ⟨[], []⟩
    have hrun := (hchecked _ hvariable ⟨[], []⟩ (fun _ _ => rfl) Deployed.Node.unreachable () 0).2
    rw [hrun]
    with_unfolding_all rfl
  · obtain ⟨-, hchecked, -⟩ := send_checked read_configuredMint wrong closed
    have hrun := (hchecked _ hfile closed (fun _ _ => rfl) Deployed.Node.unreachable () 0).2
    rw [hrun]
    with_unfolding_all rfl

end Preflight.CommandLine
