import Preflight.Curve.Group
import Preflight.Hash.Blake2b
import Preflight.Numeral.Unsigned
import Preflight.Text.Blank
import Preflight.Text.Letter
import Preflight.Text.Utf8

/-!
Secret URIs: a phrase of word characters and spaces, a path of junctions, each behind one slash or
two, and a password behind three slashes. Every part may be missing.
-/

namespace Preflight.Key

/-! ## 1. Junctions -/

/-- One step of a derivation. -/
structure Junction where
  isHard : Bool
  -- the thirty-two bytes that the step depends on
  chainCode : List UInt8
  deriving DecidableEq, Repr

namespace Junction

def size : Nat := 32

/-- The length of a byte string in its compact form, for lengths below `2 ^ 30`. -/
def compactLength (n : Nat) : List UInt8 :=
  if n < 64 then Curve.Point.littleEndian 1 (4 * n)
  else if n < 16384 then Curve.Point.littleEndian 2 (4 * n + 1)
  else Curve.Point.littleEndian 4 (4 * n + 2)

/-- The chain code of some bytes: the bytes and zeros, or the hash of too many bytes. -/
def padded (bs : List UInt8) : List UInt8 :=
  if size < bs.length then Hash.Blake2b.hash size bs
  else bs ++ List.replicate (size - bs.length) 0

/-- The chain code of a word: of its number below `2 ^ 64` if it is one, and else of its bytes
behind their number. -/
def chainCodeOf (word : List Char) : List UInt8 :=
  match Numeral.readUnsigned (Nat.pow 2 64) word with
  | .ok n => padded (Curve.Point.littleEndian 8 n)
  | .error _ =>
    let bs := Text.Utf8.encode word
    padded (compactLength bs.length ++ bs)

end Junction

/-! ## 2. URIs -/

/-- The parts of a secret URI. -/
structure SecretUri where
  phrase : List Char
  junctions : List Junction
  password : Option (List Char)
  deriving DecidableEq, Repr

namespace SecretUri

-- the phrase that stands for a missing one
def standardPhrase : List Char :=
  "bottom drive obey lake curtain smoke basket hold race lonely fit walk".toList

def isPhraseChar (c : Char) : Bool := Text.isWord c || c == ' '

def isNoSlash (c : Char) : Bool := c != '/'

/-- What a path holds: its junctions, and the password behind it. -/
abbrev Path := List Junction × Option (List Char)

/-- Puts a junction before a path; its word is `c` and the characters of `rest` up to a slash. -/
def junction (isHard : Bool) (c : Char) (rest : List Char) (path : Path) : Path :=
  (⟨isHard, Junction.chainCodeOf (c :: rest.takeWhile isNoSlash)⟩ :: path.1, path.2)

/-- Reads what is behind the phrase: junctions, and a password on one line. -/
def readPath : List Char → Option Path
  | [] => some ([], none)
  | '/' :: '/' :: '/' :: password =>
    if password.contains '\n' then none else some ([], some password)
  | '/' :: '/' :: c :: rest => (readPath (rest.dropWhile isNoSlash)).map (junction true c rest)
  | '/' :: c :: rest =>
    if isNoSlash c then (readPath (rest.dropWhile isNoSlash)).map (junction false c rest) else none
  | _ => none
termination_by cs => cs.length
decreasing_by
  all_goals
    have := Text.length_dropWhile_le isNoSlash rest
    simp only [List.length_cons]
    omega

def parse? (cs : List Char) : Option SecretUri :=
  let phrase := cs.takeWhile isPhraseChar
  match readPath (cs.dropWhile isPhraseChar) with
  | none => none
  | some (junctions, password) =>
    some ⟨if phrase.isEmpty then standardPhrase else phrase, junctions, password⟩

end SecretUri

end Preflight.Key
