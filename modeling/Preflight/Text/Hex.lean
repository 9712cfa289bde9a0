import Preflight.Text.Blank
import Preflight.Text.Quoted
import Preflight.Text.Utf8

/-!
Hexadecimal text: two digits a byte, of either case when read and of lower case when written. A
text may have blanks around it and one `0x` before its digits.
-/

namespace Preflight.Text.Hex

/-! ## 1. Digits -/

def value? (c : Char) : Option Nat :=
  if '0' ≤ c ∧ c ≤ '9' then some (c.toNat - 0x30)
  else if 'A' ≤ c ∧ c ≤ 'F' then some (c.toNat - 0x41 + 10)
  else if 'a' ≤ c ∧ c ≤ 'f' then some (c.toNat - 0x61 + 10)
  else none

def nibble? (b : UInt8) : Option Nat := value? (Char.ofNat b.toNat)

def digit (n : Nat) : Char :=
  if n < 10 then Char.ofNat (0x30 + n) else Char.ofNat (0x61 + (n - 10))

/-! ## 2. Reading -/

/-- Why a text is not hexadecimal. The index counts bytes from the first digit, and a byte stands
for the character of its own code. -/
inductive Fault where
  | oddLength
  -- the text denotes another number of bytes than was asked for
  | badLength
  | badDigit (byte : UInt8) (index : Nat)
  deriving DecidableEq, Repr

def Fault.message : Fault → String
  | .oddLength => "Odd number of digits"
  | .badLength => "Invalid string length"
  | .badDigit b index =>
    s!"Invalid character {Quoted.char (Char.ofNat b.toNat)} at position {index}"

-- the value of one digit, or the fault that it is none
def digitAt (b : UInt8) (index : Nat) : Except Fault Nat :=
  match nibble? b with
  | some n => .ok n
  | none => .error (.badDigit b index)

/-- Reads pairs of digits; `index` is the index of the first of them. -/
def readPairs (index : Nat) : List UInt8 → Except Fault (List UInt8)
  | [] => .ok []
  | [_] => .error .oddLength
  | a :: b :: r => do
    let high ← digitAt a index
    let low ← digitAt b (index + 1)
    return UInt8.ofNat (high * 16 + low) :: (← readPairs (index + 2) r)

/-- Reads digits and nothing else. An odd number of bytes is reported before any bad digit. -/
def readDigits (bs : List UInt8) : Except Fault (List UInt8) :=
  if bs.length % 2 = 1 then .error .oddLength else readPairs 0 bs

/-- Reads digits that have to denote `count` bytes. Their number is checked before any digit. -/
def readExactly (count : Nat) (bs : List UInt8) : Except Fault (List UInt8) :=
  if bs.length % 2 = 1 then .error .oddLength
  else if bs.length ≠ 2 * count then .error .badLength
  else readPairs 0 bs

-- removes one `0x` from the front, if there is one
def stripMark : List Char → List Char
  | '0' :: 'x' :: r => r
  | cs => cs

def read (cs : List Char) : Except Fault (List UInt8) :=
  readDigits (Utf8.encode (stripMark (trim cs)))

/-! ## 3. Writing -/

def writeDigits (bs : List UInt8) : List Char :=
  bs.flatMap fun b => [digit (b.toNat / 16), digit (b.toNat % 16)]

-- writes `0x` and two lower-case digits for each byte
def write (bs : List UInt8) : List Char :=
  '0' :: 'x' :: writeDigits bs

end Preflight.Text.Hex
