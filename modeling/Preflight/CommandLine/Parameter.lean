import Preflight.Balance
import Preflight.CommandLine.Word
import Preflight.Files.Path
import Preflight.Url

/-!
The parameters of commands: what they are called, how they are given, and how their values are read.
-/

namespace Preflight.CommandLine

/-! ## 1. Values -/

/-- What the value of a parameter has to be. -/
inductive Kind where
  | text
  | path
  -- a whole number of sixty-four bits
  | count
  | amount
  | url
  deriving DecidableEq, Repr

inductive Value where
  | text (s : String)
  | path (p : Files.Path)
  | count (n : UInt64)
  | amount (b : Balance)
  | url (u : Url)
  deriving DecidableEq, Repr

/-! ## 2. Parameters -/

structure Parameter where
  name : String
  kind : Kind
  -- the letter that an option may be given by
  letter : Option Char := none
  -- what stands for the value in messages
  label : String
  -- whether the parameter is given by its place alone
  isPositional : Bool := false
  -- whether any number of values may be given, any number of times
  isList : Bool := false
  deriving DecidableEq, Repr

def Parameter.shown (p : Parameter) : String :=
  if p.isPositional then p.label else s!"--{p.name} {p.label}"

/-! ## 3. Misuses -/

/-- What is wrong with a command line. -/
inductive Misuse where
  | unexpected (word : String)
  | unknownCommand (word : String)
  | missing
  | repeated (p : Parameter)
  | noValue (p : Parameter)
  | badValue (p : Parameter) (value : String) (detail : String)
  -- a value for an option that takes none
  | needlessValue (option : String) (value : String)
  | notText
  deriving DecidableEq, Repr

def Misuse.message : Misuse → String
  | .unexpected word => s!"unexpected argument '{word}' found"
  | .unknownCommand word => s!"unrecognized subcommand '{word}'"
  | .missing => "the following required arguments were not provided:"
  | .repeated p => s!"the argument '{p.shown}' cannot be used multiple times"
  | .noValue p => s!"a value is required for '{p.shown}' but none was supplied"
  | .badValue p value detail => s!"invalid value '{value}' for '{p.shown}': {detail}"
  | .needlessValue option value =>
    s!"unexpected value '{value}' for '--{option}' found; no more were expected"
  | .notText => "invalid UTF-8 was detected in one or more arguments"

/-! ## 4. Reading values -/

-- a word as text, with U+FFFD for what is not UTF-8
def shown (raw : Raw) : String := String.ofList (Text.Utf8.decodeLossy raw)

def textOf (raw : Raw) : Except Misuse (List Char) :=
  match Text.Utf8.decode raw with
  | .ok cs => .ok cs
  | .error _ => .error .notText

namespace Parameter

def refuse (p : Parameter) (value : List Char) (detail : String) : Misuse :=
  .badValue p (String.ofList value) detail

/-- The value that a word denotes. Paths may be any bytes, but not none at all. -/
def read [Url.Domains] (p : Parameter) (raw : Raw) : Except Misuse Value := do
  match p.kind with
  | .path => if raw.isEmpty then throw (.noValue p) else return .path raw
  | .text => return .text (String.ofList (← textOf raw))
  | .count =>
    let cs ← textOf raw
    match Numeral.readUnsigned (Nat.pow 2 64) cs with
    | .ok n => return .count (UInt64.ofNat n)
    | .error e => throw (p.refuse cs e.message)
  | .amount =>
    let cs ← textOf raw
    match Balance.readNumeral cs with
    | .ok b => return .amount b
    | .error e => throw (p.refuse cs e.message)
  | .url =>
    let cs ← textOf raw
    match Url.parse (String.ofList cs) with
    | .ok u => return .url u
    | .error e => throw (p.refuse cs e.message)

end Parameter

end Preflight.CommandLine
