import Preflight.CommandLine.Reading
import Preflight.Contract.Deployed

/-!
The commands of the program, and how a command line is read as one of them.
-/

namespace Preflight.CommandLine

/-! ## 1. Commands -/

/-- The parameters of previewing and sending a call. -/
structure Send where
  path : Files.Path
  address : String
  name : Option String := none
  message : String
  args : List String := []
  value : String := Deployment.standardValue
  refTime : Option UInt64 := none
  proofSize : Option UInt64 := none
  storageDepositLimit : Option String := none
  url : Url := Deployment.standardUrl
  suri : String := Deployment.standardSuri
  -- the file that the configuration is read from, instead of the environment
  config : Option Files.Path := none

inductive Command where
  -- a percentage of an amount, or of one whole token
  | percent (value : Balance) (unit : Option Balance)
  -- the limits of calls, with parts of the gas limit replaced
  | gasLimit (refTime proofSize : Option UInt64)
  -- the text that hexadecimal bytes encode
  | decode (data : String)
  | send (s : Send)

/-! ## 2. Names -/

inductive Name where
  | percent
  | gasLimit
  | decode
  | send
  deriving DecidableEq, Repr

namespace Name

-- the command that a word names, in full or by one letter
def ofText? : String → Option Name
  | "percent" => some .percent
  | "p" => some .percent
  | "gas-limit" => some .gasLimit
  | "g" => some .gasLimit
  | "decode" => some .decode
  | "d" => some .decode
  | "send" => some .send
  | "s" => some .send
  | _ => none

def ofRaw? (raw : Raw) : Option Name :=
  match Text.Utf8.decode raw with
  | .ok cs => ofText? (String.ofList cs)
  | .error _ => none

/-! ## 3. Forms -/

def countOption (name label : String) : Parameter := { name, kind := .count, label }

def proofSizeOption : Parameter := countOption "proof-size" "<PROOF_SIZE>"

def percentForm : Form where
  positionals := [{ name := "value", kind := .amount, label := "<VALUE>", isPositional := true }]
  options := [{ name := "unit", kind := .amount, label := "<UNIT>" }]

def gasLimitForm : Form where
  options := [countOption "ref-time" "<REF_TIME>", proofSizeOption]

def decodeForm : Form where
  positionals := [{ name := "data", kind := .text, label := "<DATA>", isPositional := true }]

def sendForm : Form where
  options := [
    { name := "path", kind := .path, letter := some 'p', label := "<PATH>" },
    { name := "contract", kind := .text, label := "<contract>" },
    { name := "name", kind := .text, label := "<NAME>" },
    { name := "message", kind := .text, letter := some 'm', label := "<MESSAGE>" },
    { name := "args", kind := .text, label := "[<ARGS>...]", isList := true },
    { name := "value", kind := .text, label := "<value>" },
    countOption "gas" "<gas>",
    proofSizeOption,
    { name := "storage-deposit-limit", kind := .text, label := "<STORAGE_DEPOSIT_LIMIT>" },
    { name := "url", kind := .url, label := "<url>" },
    { name := "suri", kind := .text, letter := some 's', label := "<suri>" },
    { name := "config", kind := .path, label := "<CONFIG>" }]

def form : Name → Form
  | .percent => percentForm
  | .gasLimit => gasLimitForm
  | .decode => decodeForm
  | .send => sendForm

-- the parameters of `send` that values were given to
def sendOf (g : Given) : Except Stop Send := do
  let path ← required (g.path? "path")
  let address ← required (g.text? "contract")
  let message ← required (g.text? "message")
  return {
    path, address, message
    name := g.text? "name"
    args := g.texts "args"
    value := (g.text? "value").getD Deployment.standardValue
    refTime := g.count? "gas"
    proofSize := g.count? "proof-size"
    storageDepositLimit := g.text? "storage-deposit-limit"
    url := (g.url? "url").getD Deployment.standardUrl
    suri := (g.text? "suri").getD Deployment.standardSuri
    config := g.path? "config" }

def command (name : Name) (g : Given) : Except Stop Command := do
  match name with
  | .percent => return .percent (← required (g.amount? "value")) (g.amount? "unit")
  | .gasLimit => return .gasLimit (g.count? "ref-time") (g.count? "proof-size")
  | .decode => return .decode (← required (g.text? "data"))
  | .send => return .send (← sendOf g)

end Name

/-! ## 4. Command lines -/

def versionName : String := "version"

def versionLetter : Char := 'V'

/-- Whether a word names a command, or asks for help in the place of one. -/
def isCommandWord (raw : Raw) : Bool :=
  (Name.ofRaw? raw).isSome || raw == Text.Utf8.bytes helpName

/-- What follows a word that asks for help: at most one word, which names a command. -/
def readHelp : List Raw → Stop
  | [] => .helpWanted
  | word :: rest =>
    if !isCommandWord word then .misuse (.unknownCommand (shown word))
    else
      match rest with
      | [] => .helpWanted
      | other :: _ => .misuse (.unknownCommand (shown other))

-- what follows a mark in front of any command
def readMarked : List Raw → Stop
  | [] => .nothingAsked
  | word :: _ =>
    if isCommandWord word then .misuse (.unexpected (shown word))
    else .misuse (.unknownCommand (shown word))

def readLong (name : Raw) (value : Option Raw) : Stop :=
  let flag (asked : Stop) (option : String) : Stop :=
    match value with
    | none => asked
    | some v => .misuse (.needlessValue option (shown v))
  if name = Text.Utf8.bytes versionName then flag .versionWanted versionName
  else if name = Text.Utf8.bytes helpName then flag .helpWanted helpName
  else .misuse (.unexpected s!"--{shown name}")

def readShort (letters : Raw) : Stop :=
  match Reading.splitLetters letters with
  | none => .misuse (.unexpected s!"-{shown letters}")
  | some (c, _) =>
    if c = versionLetter then .versionWanted
    else if c = helpLetter then .helpWanted
    else .misuse (.unexpected s!"-{c}")

-- reads a command line without the name of the program
def Command.read [Url.Domains] : List Raw → Except Stop Command
  | [] => .error .nothingAsked
  | word :: rest =>
    match Name.ofRaw? word with
    | some name => do name.command (← name.form.read rest)
    | none =>
      if word = Text.Utf8.bytes helpName then .error (readHelp rest)
      else
        match Word.ofRaw word with
        | .mark => .error (readMarked rest)
        | .long name value => .error (readLong name value)
        | .short letters => .error (readShort letters)
        | .plain => .error (.misuse (.unknownCommand (shown word)))

end Preflight.CommandLine
