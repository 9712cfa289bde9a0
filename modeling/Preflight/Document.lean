import Preflight.Fault
import Preflight.Files.Tree
import Preflight.Policy
import Preflight.Toml.Section

/-!
Configurations from TOML documents. A document may set the mode, and in the table `finalization` the
fields of the policy; what it does not set keeps its standard value, and what is no such field is
refused.
-/

namespace Preflight

namespace Document

open Toml

/-! ## 1. What a document sets -/

/-- The fields of the policy that a document sets, times in milliseconds. -/
structure PolicyFields where
  pollIntervalMs : Option UInt64 := none
  backoff : Option UInt32 := none
  maxIntervalMs : Option UInt64 := none
  maxAttempts : Option UInt32 := none
  timeoutMs : Option UInt64 := none
  deriving DecidableEq, Repr

/-- What a document sets. -/
structure Fields where
  mode : Option Mode := none
  finalization : Option PolicyFields := none
  deriving DecidableEq, Repr

/-- A field of the policy. -/
inductive PolicyField where
  | pollInterval
  | backoff
  | maxInterval
  | maxAttempts
  | timeout
  deriving DecidableEq, Repr

/-- How wide a number is. -/
inductive Width where
  | bits64
  | bits32
  deriving DecidableEq, Repr

namespace Width

def bound : Width → Int
  | bits64 => Nat.pow 2 64
  | bits32 => Nat.pow 2 32

def name : Width → String
  | bits64 => "u64"
  | bits32 => "u32"

end Width

namespace PolicyField

-- the fields in the order in which a list gives them
def all : List PolicyField := [pollInterval, backoff, maxInterval, maxAttempts, timeout]

def key : PolicyField → String
  | pollInterval => "poll_interval_ms"
  | backoff => "backoff"
  | maxInterval => "max_interval_ms"
  | maxAttempts => "max_attempts"
  | timeout => "timeout_ms"

def width : PolicyField → Width
  | pollInterval => .bits64
  | backoff => .bits32
  | maxInterval => .bits64
  | maxAttempts => .bits32
  | timeout => .bits64

def ofKey? (k : String) : Option PolicyField := all.find? (·.key == k)

def isSet (f : PolicyFields) : PolicyField → Bool
  | pollInterval => f.pollIntervalMs.isSome
  | backoff => f.backoff.isSome
  | maxInterval => f.maxIntervalMs.isSome
  | maxAttempts => f.maxAttempts.isSome
  | timeout => f.timeoutMs.isSome

def set (f : PolicyFields) (n : Nat) : PolicyField → PolicyFields
  | pollInterval => { f with pollIntervalMs := some (.ofNat n) }
  | backoff => { f with backoff := some (.ofNat n) }
  | maxInterval => { f with maxIntervalMs := some (.ofNat n) }
  | maxAttempts => { f with maxAttempts := some (.ofNat n) }
  | timeout => { f with timeoutMs := some (.ofNat n) }

end PolicyField

/-! ## 2. Why a document is refused -/

def unfit (message : String) : Toml.Fault := .nowhere (.unfit message)

def quotedKeys (keys : List String) : List String := keys.map fun k => s!"`{k}`"

def unknownPolicyField (k : String) : Toml.Fault :=
  let expected := String.intercalate ", " (quotedKeys (PolicyField.all.map PolicyField.key))
  unfit s!"unknown field `{k}`, expected one of {expected}"

def unknownField (k : String) : Toml.Fault :=
  unfit s!"unknown field `{k}`, expected `mode` or `finalization`"

def duplicateField (k : String) : Toml.Fault :=
  unfit s!"duplicate field `{k}`"

def invalidType (found expected : String) : Toml.Fault :=
  unfit s!"invalid type: {found}, expected {expected}"

def described : Value → String
  | .integer _ n => s!"integer `{n}`"
  | .float _ x => s!"floating point `{x.text}`"
  | .boolean _ b => s!"boolean `{b}`"
  | .text _ s => s!"string {Text.Quoted.text s}"
  | .datetime _ => "map"
  | .array .. => "sequence"
  | .inlineTable .. => "map"
  | .dottedTable .. => "map"

/-- A value of a type that does not fit. A list is refused without its place. -/
def mistyped (v : Value) (expected : String) : Toml.Fault :=
  match v with
  | .array .. => invalidType (described v) expected
  | _ => (invalidType (described v) expected).orAt v.offset

/-! ## 3. Numbers -/

-- the number that a value is, if it fits
def number (w : Width) (v : Value) : Except Toml.Fault Nat :=
  match v with
  | .integer offset n =>
    if 0 ≤ n && n < w.bound then .ok n.toNat
    else .error ((unfit s!"invalid value: integer `{n}`, expected {w.name}").orAt offset)
  | _ => .error (mistyped v w.name)

/-! ## 4. Modes -/

def modeNamed (word : String) : Except Toml.Fault Mode :=
  if word = Mode.live.word then .ok .live
  else if word = Mode.test.word then .ok .test
  else .error (unfit s!"unknown variant `{word}`, expected `live` or `test`")

/-- The mode with a name, if the table that goes with the name is empty. -/
def modeWithTable (word : String) (table : Value) : Except Toml.Fault Mode := do
  let mode ← modeNamed word
  let pairs ← match table with
    | .inlineTable _ pairs => pure pairs
    | .dottedTable _ pairs => pure pairs
    | other => throw (.here (.wanted "table" other.sort) other.offset)
  if pairs.isEmpty then return mode else throw (.here .expectedEmptyTable table.offset)

/-- The mode that a value names: a string, or a table whose one key is the name of an empty
table. -/
def modeOf : Value → Except Toml.Fault Mode
  | .text _ s => modeNamed s
  | .inlineTable _ [(k, inner)] => modeWithTable k inner
  | .inlineTable offset [] =>
    .error (.here (.wanted "exactly 1 element" "zero elements") offset)
  | .inlineTable offset _ =>
    .error (.here (.wanted "exactly 1 element" "more than 1 element") offset)
  | other => .error (.here (.wanted "string or inline table" other.sort) other.offset)

/-! ## 5. Policies -/

def policyType : String := "struct PolicyFile"

/-- Sets the field with a key, which has to be known and not set yet. -/
def setField (f : PolicyFields) (k : String) (value : Width → Except Toml.Fault Nat) :
    Except Toml.Fault PolicyFields :=
  match PolicyField.ofKey? k with
  | none => .error (unknownPolicyField k)
  | some field =>
    if field.isSet f then .error (duplicateField k)
    else do
      let n ← value field.width
      return field.set f n

def setPairs (f : PolicyFields) : Pairs → Except Toml.Fault PolicyFields
  | [] => .ok f
  | (k, v) :: rest => do
    let f ← setField f k fun w => number w v
    setPairs f rest

/-- Sets fields in their order by the items of a list, of which there have to be as many. -/
def setItems (f : PolicyFields) (count : Nat) :
    List PolicyField → List Value → Except Toml.Fault PolicyFields
  | [], [] => .ok f
  | [], rest =>
    .error (unfit
      s!"invalid length {count + rest.length}, expected {count} elements in sequence")
  | _ :: _, [] => .error (unfit s!"invalid length {count}, expected {policyType} with 5 elements")
  | field :: fields, v :: rest => do
    let n ← number field.width v
    setItems (field.set f n) (count + 1) fields rest

/-- The fields that a value sets: a table by its keys, a list by its items. -/
def policyOf (v : Value) : Except Toml.Fault PolicyFields :=
  let placed (r : Except Toml.Fault PolicyFields) := r.mapError (·.orAt v.offset)
  match v with
  | .inlineTable _ pairs => placed (setPairs {} pairs)
  | .dottedTable _ pairs => placed (setPairs {} pairs)
  | .datetime _ => placed (.error (unknownPolicyField "$__toml_private_datetime"))
  | .array _ items => setItems {} 0 PolicyField.all items
  | other => .error (mistyped other policyType)

/-! ## 6. Documents -/

def modeKey : String := "mode"

def finalizationKey : String := "finalization"

-- sets one of the two things that a document can set
def setRoot (f : Fields) (k : String) (mode : Except Toml.Fault Mode)
    (policy : Except Toml.Fault PolicyFields) : Except Toml.Fault Fields :=
  if k = modeKey then
    if f.mode.isSome then .error (duplicateField k)
    else do
      let m ← mode.mapError (·.under k)
      return { f with mode := some m }
  else if k = finalizationKey then
    if f.finalization.isSome then .error (duplicateField k)
    else do
      let p ← policy.mapError (·.under k)
      return { f with finalization := some p }
  else .error (unknownField k)

def setRootPairs (f : Fields) : Pairs → Except Toml.Fault Fields
  | [] => .ok f
  | (k, v) :: rest => do
    let f ← setRoot f k (modeOf v) (policyOf v)
    setRootPairs f rest

/-- The mode that a section names by the last part of its header, which has to be the only section
and empty. -/
def modeOfSection (alone : Bool) (s : Section) : Except Toml.Fault Mode :=
  if alone then modeWithTable (s.header.getLast?.getD "") (.dottedTable 0 s.pairs)
  else .error ((unfit "enum table must contain exactly one table").orAt 0)

/-- Sets what a section under the table `finalization` sets. A longer header names a table where a
number belongs. -/
def setSection (f : PolicyFields) (s : Section) : Except Toml.Fault PolicyFields :=
  match s.header.drop 1 with
  | [] => setPairs' f s.pairs
  | k :: deeper =>
    let found := if s.isArray && deeper.isEmpty then "sequence" else "map"
    setField f k fun w => .error ((invalidType found w.name).under k)
where
  -- pairs of a section, each fault under its key
  setPairs' (f : PolicyFields) : Pairs → Except Toml.Fault PolicyFields
    | [] => .ok f
    | (k, v) :: rest => do
      let f ← setField f k fun w => (number w v).mapError (·.under k)
      setPairs' f rest

/-- Sets what the sections under the table `finalization` set, behind the first of them with a
header. No other may repeat that header. -/
def setSections (header : List String) (f : PolicyFields) :
    List Section → Except Toml.Fault PolicyFields
  | [] => .ok f
  | s :: rest =>
    if s.header = header then .error (.here (.duplicateTable s.name) s.offset)
    else do
      let f ← setSection f s
      setSections header f rest

/-- The fields that the sections under the table `finalization` set. Double brackets around its
name make it a list of tables, which is no policy. -/
def policyOfSections (first : Section) (rest : List Section) : Except Toml.Fault PolicyFields :=
  if first.isArray && first.header.length = 1 then
    .error (invalidType "map" Width.bits64.name)
  else do
    let f ← setSection {} first
    setSections first.header f rest

def isUnder (key : String) (s : Section) : Bool := s.header.head? == some key

/-- Sets what the sections with headers set. The first section under a key brings all others under
it along; `taken` holds the keys of those that were brought along. -/
def setHeaders (alone : Bool) (taken : List String) (f : Fields) :
    List Section → Except Toml.Fault Fields
  | [] => .ok f
  | s :: rest =>
    let key := s.header.head?.getD ""
    if taken.contains key then setHeaders alone taken f rest
    else do
      let others := rest.filter (isUnder key)
      let f ← setRoot f key (modeOfSection alone s) (policyOfSections s others)
      setHeaders alone (key :: taken) f rest

/-- What the sections of a document set. A fault without a place is put at the last section. -/
def fieldsOf (ss : List Section) : Except Toml.Fault Fields :=
  let alone := ss.length = 1
  let result : Except Toml.Fault Fields := match ss with
    | [] => .ok {}
    | s :: rest =>
      if s.header.isEmpty then do
        let f ← setRootPairs {} s.pairs
        setHeaders alone [] f rest
      else setHeaders alone [] {} ss
  result.mapError (·.orAt ((ss.getLast?.map Section.offset).getD 0))

/-! ## 7. Configurations -/

def PolicyFields.policy (f : PolicyFields) : Policy :=
  let standard := Policy.standard
  { pollInterval := (f.pollIntervalMs.map Duration.ofMillis).getD standard.pollInterval
    backoff := f.backoff.getD standard.backoff
    maxInterval := (f.maxIntervalMs.map Duration.ofMillis).getD standard.maxInterval
    maxAttempts := f.maxAttempts <|> standard.maxAttempts
    timeout := f.timeoutMs.map Duration.ofMillis <|> standard.timeout }

/-- The configuration with the fields that are set. A backoff of zero is refused. -/
def Fields.config (f : Fields) : Except Preflight.Fault Config :=
  let policy := (f.finalization.getD {}).policy
  if policy.backoff = 0 then .error (.config "`backoff` must be at least 1")
  else .ok { mode := f.mode.getD .live, finalization := policy }

def read (document : List Char) : Except Toml.Fault Fields := do
  fieldsOf (← sections document)

end Document

def Config.ofDocument (s : String) : Except Fault Config :=
  match Document.read s.toList with
  | .error e => .error (.config s!"Failed to parse configuration: {e.message s.toList}")
  | .ok fields => fields.config

-- the configuration that the document in a file asks for
def Config.ofFile (tree : Files.Tree) (path : Files.Path) : Except Fault Config :=
  match tree.readText path with
  | .error e => .error (.file e.message)
  | .ok document => Config.ofDocument document

end Preflight
