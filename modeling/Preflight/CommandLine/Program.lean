import Preflight.CommandLine.Sending
import Preflight.HexText
import Preflight.Log.Filter

/-!
The program: what it prints and the code that it ends with, for a command line, an environment and
a tree of files. The code is 0 if the command succeeds, 1 if it fails, and 2 if the command line
cannot be read.
-/

namespace Preflight.CommandLine

/-! ## 1. Exits -/

/-- How a run ends. -/
structure Exit where
  code : Nat
  stdout : String := ""
  stderr : String := ""
  deriving DecidableEq, Repr

def unlines (lines : List String) : String :=
  lines.foldl (fun text line => text ++ line ++ "\n") ""

def about : String :=
  "Command line tool for previewing and sending ink! smart contract transactions."

def help : String := unlines [
  about,
  "",
  "Usage: pop-tx <COMMAND>",
  "",
  "Commands:",
  "  percent    Calculate a percentage of one whole token",
  "  gas-limit  Show the gas limit and storage deposit limit used for contract calls",
  "  decode     Decode hex encoded bytes into text",
  "  send       Preview a contract call and, if successful, submit it and wait for its "
    ++ "finalization",
  "  help       Print this message or the help of the given subcommand(s)",
  "",
  "Options:",
  "  -h, --help     Print help",
  "  -V, --version  Print version"]

def version : String := "pop-tx-cli 0.14.0"

-- how a run ends whose command line is not carried out
def Stop.exit : Stop → Exit
  | .misuse m => { code := 2, stderr := unlines [s!"error: {m.message}"] }
  | .helpWanted => { code := 0, stdout := help }
  | .versionWanted => { code := 0, stdout := unlines [version] }
  | .nothingAsked => { code := 2, stderr := help }

/-- A fault as it is shown at the end of a run. The cause of a fault of the file system is shown
again below it. -/
def faultText (fault : Fault) : String :=
  let cause := match fault with
    | .file detail => ["", "Caused by:", s!"    {detail}"]
    | _ => []
  unlines (s!"Error: {fault.message}" :: cause)

def Report.exit (filter : Log.Filter) (r : Report) : Exit :=
  let logged := unlines ((r.lines.filter filter.shows).map Log.Entry.text)
  match r.result with
  | .ok text => { code := 0, stdout := unlines [text], stderr := logged }
  | .error fault => { code := 1, stderr := logged ++ faultText fault }

/-! ## 2. Commands -/

def field (label value : String) : String := s!"{label}: {value}"

def gasLimitText (refTime proofSize : Option UInt64) : String :=
  let o := CallOptions.standard.withGasLimit (.build refTime proofSize)
  "\n".intercalate [
    field "ref time" (toString o.gasLimit.refTime.toNat),
    field "proof size" (toString o.gasLimit.proofSize.toNat),
    field "storage deposit limit" (toString o.storageDepositLimit.units)]

def percentText (value : Balance) (unit : Option Balance) : Except Fault String :=
  let amount := match unit with
    | some unit => Balance.percentOfUnit value unit
    | none => Balance.percentOf value
  amount.map fun b => toString b.units

/-- Carries out a command. Only `send` uses the node, the environment and the files. -/
def Command.run {World Handle : Type} (node : Deployed.Node World Handle) (world : World)
    (checks : Nat) (env : Environment.Variables) (tree : Files.Tree) : Command → Option Report
  | .percent value unit => some { result := percentText value unit }
  | .gasLimit refTime proofSize => some { result := .ok (gasLimitText refTime proofSize) }
  | .decode data => some { result := HexText.decode data }
  | .send s => s.run node world checks env tree

def Command.paths : Command → List Files.Path
  | .send s => s.paths
  | _ => []

/-! ## 3. Runs -/

def logVariable : String := "RUST_LOG"

def variableNames : List String :=
  [logVariable, Environment.modeVariable, Environment.pollIntervalVariable,
    Environment.maxAttemptsVariable, Environment.timeoutVariable]

/-- The filter that the environment asks for, and what is said about the parts of it that cannot be
read. -/
def logFilter (env : Environment.Variables) : Log.Filter × List String :=
  match Environment.lookUp env logVariable with
  | none => (.standard, [])
  | some cs => Log.Filter.ofText cs

def warningText (warning : String) : String := s!"warning: {warning}, ignoring it"

/-- A run of the program, in which the finality of a sent call is checked at most `checks` times;
nothing if that does not suffice. -/
def run [Url.Domains] {World Handle : Type} (node : Deployed.Node World Handle) (world : World)
    (checks : Nat) (env : Environment.Variables) (tree : Files.Tree) (words : List Raw) :
    Option Exit :=
  let (filter, warnings) := logFilter env
  let warned (e : Exit) : Exit :=
    { e with stderr := unlines (warnings.map warningText) ++ e.stderr }
  match Command.read words with
  | .error stop => some (warned stop.exit)
  | .ok command => (command.run node world checks env tree).map fun r => warned (r.exit filter)

end Preflight.CommandLine
