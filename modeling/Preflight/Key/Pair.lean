import Preflight.Fault
import Preflight.Key.Phrase
import Preflight.Key.SecretUri
import Preflight.Key.Transcript
import Preflight.Text.Hex

/-!
Key pairs that sign: made from a secret URI by its seed and the derivations of its junctions, and
shown as an account address.
-/

namespace Preflight.Key

/-! ## 1. Pairs -/

/-- A secret scalar and the bytes of its multiple of the base point. -/
structure Pair where
  secret : Nat
  publicKey : List UInt8
  deriving DecidableEq, Repr

namespace Pair

open Curve

def ofSecret (secret : Nat) : Pair := ⟨secret, ((Point.times secret .base).encode)⟩

/-- The pair of a seed of thirty-two bytes. The low and high bits of its hash are fixed, and the
result is divided by the cofactor eight. -/
def ofSeed (seed : List UInt8) : Pair :=
  let n := Point.ofLittleEndian ((Hash.Sha512.hash seed).take 32)
  ofSecret (n % Nat.pow 2 254 / 8 + Nat.pow 2 251)

-- the transcript that the derivations of a pair have in common
def transcript (chainCode : List UInt8) : Transcript :=
  ((Transcript.fresh "SchnorrRistrettoHDKD").append "sign-bytes" []).append "chain-code" chainCode

/-- The pair behind a junction. A hard one depends on the secret, a soft one on the public key. -/
def derive (p : Pair) (j : Junction) : Pair :=
  let t := transcript j.chainCode
  if j.isHard then
    let t := t.append "secret-key" (Point.littleEndian 32 p.secret)
    ofSeed (t.challenge "HDKD-hard" 32)
  else
    let t := t.append "public-key" p.publicKey
    let step := Point.ofLittleEndian (t.challenge "HDKD-scalar" 64) % groupOrder
    ofSecret ((p.secret + step) % groupOrder)

/-! ## 2. From secret URIs -/

/-- The seed that a phrase and a password give. A phrase that begins with `0x` is the seed itself in
hexadecimal, and has no password. -/
def seedOf (phrase : List Char) (password : Option (List Char)) : Except Fault (List UInt8) :=
  match phrase with
  | '0' :: 'x' :: digits =>
    match Text.Hex.readExactly 32 (Text.Utf8.encode digits) with
    | .ok seed => .ok seed
    | .error e => .error (.keyPair s!"Cannot parse hex string: {e.message}")
  | _ =>
    match Phrase.entropy phrase with
    | .ok entropy => .ok (Phrase.seed entropy (Text.Utf8.encode (password.getD [])))
    | .error e => .error (.keyPair s!"Cannot parse phrase: {e.message}")

def ofUri (s : String) : Except Fault Pair :=
  match SecretUri.parse? s.toList with
  | none => .error (.secretUri "Invalid secret phrase format")
  | some uri =>
    match seedOf uri.phrase uri.password with
    | .error e => .error e
    | .ok seed => .ok (uri.junctions.foldl derive (ofSeed seed))

end Pair

end Preflight.Key
