import Preflight.Contract.Version
import Preflight.Json.Value
import Preflight.Text.Blank
import Preflight.Url

/-!
The metadata of a contract: a JSON object that says what the contract was built from, and what its
authors say about it. Only the fields that are known have a form; a known field stands at most once,
and one that may be left out may be null as well.
-/

namespace Preflight.Metadata

open Json (Value)

/-! ## 1. Forms of fields -/

/-- What a value has to be. -/
abbrev Form := Value → Bool

def isNull : Form
  | .null => true
  | _ => false

def textThat (holds : List Char → Bool) : Form
  | .text cs => holds cs
  | _ => false

def isText : Form := textThat fun _ => true

def isObject : Form
  | .object _ => true
  | _ => false

def listOf (item : Form) : Form
  | .array items => items.all item
  | _ => false

/-- The fields of an object: the form of each, and whether it has to be there. -/
def objectOf (fields : List (String × Bool × Form)) : Form
  | .object pairs => fields.all fun (key, isRequired, form) =>
    match Value.get? pairs key with
    | none => !isRequired
    | some v => Value.count pairs key == 1 && ((!isRequired && isNull v) || form v)
  | _ => false

/-! ## 2. Forms of metadata -/

/-- Hexadecimal bytes, perhaps behind `0x`, whose number may be fixed. -/
def isHex (count : Option Nat) : Form := textThat fun cs =>
  match Text.Hex.readDigits (Text.Utf8.encode (Text.Hex.stripMark cs)) with
  | .ok bs => count.all (· == bs.length)
  | .error _ => false

-- one of some names, and a version behind it
def isTool (names : List String) : Form := textThat fun cs =>
  match Text.words cs with
  | name :: version :: _ => names.contains (String.ofList name) && Version.isVersion version
  | _ => false

def isUrl [Url.Domains] : Form := textThat fun cs => (Url.parse (String.ofList cs)).isOk

def isSource : Form := objectOf [
  ("hash", true, isHex (some 32)),
  ("language", true, isTool ["ink!", "Solidity", "AssemblyScript"]),
  ("compiler", true, isTool ["rustc", "solang"]),
  ("contract_binary", false, isHex none),
  ("build_info", false, isObject)]

def isDescription [Url.Domains] : Form := objectOf [
  ("name", true, isText),
  ("version", true, textThat Version.isVersion),
  ("authors", true, listOf isText),
  ("description", false, isText),
  ("documentation", false, isUrl),
  ("repository", false, isUrl),
  ("homepage", false, isUrl),
  ("license", false, isText)]

def isMetadata [Url.Domains] : Form := objectOf [
  ("source", true, isSource),
  ("contract", true, isDescription),
  ("image", false, isText),
  ("user", false, isObject)]

-- whether the content of a file is the metadata of a contract
def isMetadataFile [Url.Domains] (content : List UInt8) : Bool :=
  match Text.Utf8.decode content with
  | .error _ => false
  | .ok cs => (Json.parse? cs).any isMetadata

end Preflight.Metadata
