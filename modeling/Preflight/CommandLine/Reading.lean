import Preflight.CommandLine.Parameter

/-!
Reading the words behind a command from left to right. The words of a parameter are collected first;
they become values when the next parameter begins, or at the end. Something that is no parameter at
all is reported before the values that were collected last.
-/

namespace Preflight.CommandLine

/-! ## 1. Forms of commands -/

/-- The parameters of a command. Options take values, and come in any order. -/
structure Form where
  positionals : List Parameter := []
  options : List Parameter := []

/-- Why a command line is not carried out. -/
inductive Stop where
  | misuse (m : Misuse)
  | helpWanted
  | versionWanted
  -- there is no command at all
  | nothingAsked
  deriving DecidableEq, Repr

namespace Form

def named (f : Form) (name : Raw) : Option Parameter :=
  f.options.find? fun p => Text.Utf8.bytes p.name == name

def lettered (f : Form) (c : Char) : Option Parameter :=
  f.options.find? fun p => p.letter == some c

end Form

def helpName : String := "help"

def helpLetter : Char := 'h'

/-! ## 2. States -/

/-- The values that were given, by the names of their parameters. -/
abbrev Given := List (String × List Value)

/-- How far a command line has been read. -/
structure Reading where
  given : Given := []
  -- the parameter that words are collected for, and those words
  pending : Option (Parameter × List Raw) := none
  -- whether the next plain word is for the pending parameter
  isOpen : Bool := false
  -- whether nothing that follows is an option
  isMarked : Bool := false
  -- the parameters whose place has not come yet
  positionals : List Parameter

namespace Reading

variable [Url.Domains]

/-! ## 3. Collected words -/

-- reads the words that were collected for a parameter
def accept (r : Reading) (p : Parameter) (words : List Raw) : Except Misuse Reading := do
  if words.isEmpty && !p.isList then throw (.noValue p)
  if !p.isList && r.given.any (·.1 == p.name) then throw (.repeated p)
  let values ← words.mapM p.read
  return { r with given := r.given ++ [(p.name, values)], pending := none, isOpen := false }

def settle (r : Reading) : Except Misuse Reading :=
  match r.pending with
  | none => .ok { r with isOpen := false }
  | some (p, words) => r.accept p words

/-- Begins to collect words for an option, or reads the value that is attached to it. -/
def option (r : Reading) (p : Parameter) (value : Option Raw) : Except Misuse Reading := do
  let r ← r.settle
  match value with
  | some raw => r.accept p [raw]
  | none => return { r with pending := some (p, []), isOpen := true }

def place (r : Reading) (raw : Raw) : Except Misuse Reading :=
  match r.positionals with
  | [] => .error (.unexpected (shown raw))
  | p :: rest => do
    let r ← r.settle
    return { r with pending := some (p, [raw]), positionals := rest }

/-- Takes a plain word: for the pending parameter if that is open, for the next place otherwise. -/
def plain (r : Reading) (raw : Raw) : Except Misuse Reading :=
  match r.isOpen, r.pending with
  | true, some (p, words) =>
    .ok { r with pending := some (p, words ++ [raw]), isOpen := p.isList }
  | _, _ => r.place raw

/-! ## 4. Options -/

/-- Stops for help, unless the words that were collected last are wrong. -/
def help (r : Reading) : Except Stop Reading := do
  let _ ← r.settle.mapError Stop.misuse
  throw .helpWanted

def long (f : Form) (r : Reading) (name : Raw) (value : Option Raw) : Except Stop Reading :=
  match f.named name with
  | some p => (r.option p value).mapError .misuse
  | none =>
    if name = Text.Utf8.bytes helpName then
      match value with
      | none => r.help
      | some v => .error (.misuse (.needlessValue helpName (CommandLine.shown v)))
    else .error (.misuse (.unexpected s!"--{CommandLine.shown name}"))

/-- The first letter behind a hyphen, and what is attached to it, perhaps behind an equals sign. -/
def splitLetters (letters : Raw) : Option (Char × Option Raw) :=
  match Text.Utf8.pieces letters with
  | .char c :: _ =>
    match letters.drop c.utf8Size with
    | [] => some (c, none)
    | b :: rest => some (c, some (if b = Word.equals then rest else b :: rest))
  | _ => none

def short (f : Form) (r : Reading) (letters : Raw) : Except Stop Reading :=
  match splitLetters letters with
  | none => .error (.misuse (.unexpected s!"-{CommandLine.shown letters}"))
  | some (c, value) =>
    match f.lettered c with
    | some p => (r.option p value).mapError .misuse
    | none =>
      if c = helpLetter then r.help
      else .error (.misuse (.unexpected s!"-{c}"))

/-! ## 5. All words -/

def step (f : Form) (r : Reading) (raw : Raw) : Except Stop Reading :=
  if r.isMarked then (r.place raw).mapError .misuse
  else
    match Word.ofRaw raw with
    | .mark => .ok { r with isMarked := true }
    | .long name value => long f r name value
    | .short letters => short f r letters
    | .plain => (r.plain raw).mapError .misuse

end Reading

-- the values that words give to the parameters of a command
def Form.read [Url.Domains] (f : Form) (words : List Raw) : Except Stop Given := do
  let r ← words.foldlM (Reading.step f) { positionals := f.positionals }
  let r ← r.settle.mapError Stop.misuse
  return r.given

/-! ## 6. Given values -/

namespace Given

def values (g : Given) (name : String) : List Value :=
  g.flatMap fun (n, vs) => if n = name then vs else []

def texts (g : Given) (name : String) : List String :=
  (g.values name).filterMap fun v => match v with
    | .text s => some s
    | _ => none

def text? (g : Given) (name : String) : Option String := (g.texts name).head?

def path? (g : Given) (name : String) : Option Files.Path :=
  (g.values name).findSome? fun v => match v with
    | .path p => some p
    | _ => none

def count? (g : Given) (name : String) : Option UInt64 :=
  (g.values name).findSome? fun v => match v with
    | .count n => some n
    | _ => none

def amount? (g : Given) (name : String) : Option Balance :=
  (g.values name).findSome? fun v => match v with
    | .amount b => some b
    | _ => none

def url? (g : Given) (name : String) : Option Url :=
  (g.values name).findSome? fun v => match v with
    | .url u => some u
    | _ => none

end Given

def required {α : Type} : Option α → Except Stop α
  | some a => .ok a
  | none => .error (.misuse .missing)

end Preflight.CommandLine
