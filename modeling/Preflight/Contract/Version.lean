import Preflight.Numeral.Unsigned
import Preflight.Text.Split

/-!
Version numbers: three whole numbers with periods between them, then perhaps the identifiers of a
pre-release behind a hyphen, and perhaps those of a build behind a plus sign.
-/

namespace Preflight.Version

-- whether digits have no needless zero at their front
def isLean (digits : List Char) : Bool :=
  digits.head? != some '0' || digits.length == 1

-- whether a part is a whole number of sixty-four bits
def isNumber (part : List Char) : Bool :=
  !part.isEmpty && part.all Char.isDigit && isLean part
    && (Numeral.readDigits (Nat.pow 2 64) 0 part).isOk

def isIdentifier (part : List Char) : Bool :=
  !part.isEmpty && part.all fun c => c.isAlphanum || c == '-'

/-- Whether a part may stand in a pre-release. Numbers in it have no needless zero. -/
def isPreRelease (part : List Char) : Bool :=
  isIdentifier part && (!part.all Char.isDigit || isLean part)

def isVersion (cs : List Char) : Bool :=
  let (front, build) := Text.cutAt '+' cs
  let (core, preRelease) := Text.cutAt '-' front
  let numbers := Text.splitAt '.' core
  numbers.length == 3 && numbers.all isNumber
    && preRelease.all (fun cs => (Text.splitAt '.' cs).all isPreRelease)
    && build.all (fun cs => (Text.splitAt '.' cs).all isIdentifier)

end Preflight.Version
