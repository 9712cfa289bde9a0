import Preflight.Hash.Derivation
import Preflight.Hash.Sha256
import Preflight.Key.Words
import Preflight.Text.Blank
import Preflight.Text.Utf8

/-!
Secret phrases: words that write the bits of some entropy and of a checksum over it, and the seed of
a key that follows from the entropy and a password.
-/

namespace Preflight.Key.Phrase

/-! ## 1. Reading -/

/-- Why a text is no secret phrase. -/
inductive Fault where
  | badWordCount (count : Nat)
  | unknownWord (index : Nat)
  | badChecksum
  deriving DecidableEq, Repr

def Fault.message : Fault → String
  | .badWordCount count =>
    s!"mnemonic has an invalid word count: {count}. Word count must be 12, 15, 18, 21, or 24"
  | .unknownWord index => s!"mnemonic contains an unknown word (word {index})"
  | .badChecksum => "the mnemonic has an invalid checksum"

def isWordCount (count : Nat) : Bool := [12, 15, 18, 21, 24].contains count

/-- The indices of words, of which the first has number `position` in the phrase. -/
def indices (position : Nat) : List (List Char) → Except Fault (List Nat)
  | [] => .ok []
  | word :: rest =>
    match Words.index? (String.ofList word) with
    | none => .error (.unknownWord position)
    | some i => (i :: ·) <$> indices (position + 1) rest

-- the bytes of a number, the most significant first
def bigEndian (count n : Nat) : List UInt8 :=
  (List.range count).map fun i => UInt8.ofNat (n / Nat.pow 256 (count - 1 - i))

/-- The entropy that the words with some indices write, if their checksum is right. Of every
thirty-three bits one belongs to the checksum. -/
def entropyOf (is : List Nat) : Except Fault (List UInt8) :=
  let checkBits := is.length / 3
  let all := is.foldl (fun n i => n * 2048 + i) 0
  let entropy := bigEndian (4 * checkBits) (all / Nat.pow 2 checkBits)
  let check := ((Hash.Sha256.hash entropy).headD 0).toNat / Nat.pow 2 (8 - checkBits)
  if all % Nat.pow 2 checkBits = check then .ok entropy else .error .badChecksum

/-- The entropy that a phrase writes. The first word is looked up before the words are counted, and
the others afterwards. -/
def entropy (cs : List Char) : Except Fault (List UInt8) := do
  let words := Text.words cs
  let _ ← indices 0 (words.take 1)
  unless isWordCount words.length do throw (.badWordCount words.length)
  entropyOf (← indices 0 words)

/-! ## 2. Seeds -/

def seedRounds : Nat := 2048

/-- The seed of a key that follows from entropy and the bytes of a password. -/
def seed (entropy password : List UInt8) : List UInt8 :=
  (Hash.derive entropy (Text.Utf8.bytes "mnemonic" ++ password) seedRounds).take 32

end Preflight.Key.Phrase
