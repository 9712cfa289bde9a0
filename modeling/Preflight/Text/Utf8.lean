/-!
UTF-8: reading bytes as characters. A byte string is cut into pieces, each a character in its one
legal form, a run of bytes that no continuation can make legal, or a character that the end of the
input cuts off. Strict decoding stops at the first piece that is not a character and reports where
it lies; lossy decoding puts U+FFFD in its place.
-/

namespace Preflight.Text.Utf8

/-! ## 1. Pieces -/

/-- One piece of a byte string. -/
inductive Piece where
  -- a character in its one legal form
  | char (c : Char)
  -- that many bytes at the front of no legal form
  | broken (width : Nat)
  -- the end of the input inside a form that was legal so far
  | cut
  deriving DecidableEq, Repr

def isTail (b : UInt8) : Bool :=
  0x80 ≤ b && b ≤ 0xBF

/-- The second bytes that may follow the first byte of a three-byte form: overlong forms and
surrogates are left out. -/
def isSecondOfThree (a b : UInt8) : Bool :=
  if a == 0xE0 then 0xA0 ≤ b && b ≤ 0xBF
  else if a == 0xED then 0x80 ≤ b && b ≤ 0x9F
  else isTail b

/-- The second bytes that may follow the first byte of a four-byte form: overlong forms and values
above U+10FFFF are left out. -/
def isSecondOfFour (a b : UInt8) : Bool :=
  if a == 0xF0 then 0x90 ≤ b && b ≤ 0xBF
  else if a == 0xF4 then 0x80 ≤ b && b ≤ 0x8F
  else isTail b

def twoBytes (a b : UInt8) : Char :=
  Char.ofNat ((a.toNat - 0xC0) * 64 + (b.toNat - 0x80))

def threeBytes (a b c : UInt8) : Char :=
  Char.ofNat (((a.toNat - 0xE0) * 64 + (b.toNat - 0x80)) * 64 + (c.toNat - 0x80))

def fourBytes (a b c d : UInt8) : Char :=
  Char.ofNat
    ((((a.toNat - 0xF0) * 64 + (b.toNat - 0x80)) * 64 + (c.toNat - 0x80)) * 64 + (d.toNat - 0x80))

def pieces : List UInt8 → List Piece
  | [] => []
  | a :: r =>
    if a < 0x80 then .char (Char.ofNat a.toNat) :: pieces r
    else if 0xC2 ≤ a && a ≤ 0xDF then
      match r with
      | [] => [.cut]
      | b :: r' =>
        if isTail b then .char (twoBytes a b) :: pieces r' else .broken 1 :: pieces (b :: r')
    else if 0xE0 ≤ a && a ≤ 0xEF then
      match r with
      | [] => [.cut]
      | b :: r' =>
        if isSecondOfThree a b then
          match r' with
          | [] => [.cut]
          | c :: r'' =>
            if isTail c then .char (threeBytes a b c) :: pieces r''
            else .broken 2 :: pieces (c :: r'')
        else .broken 1 :: pieces (b :: r')
    else if 0xF0 ≤ a && a ≤ 0xF4 then
      match r with
      | [] => [.cut]
      | b :: r' =>
        if isSecondOfFour a b then
          match r' with
          | [] => [.cut]
          | c :: r'' =>
            if isTail c then
              match r'' with
              | [] => [.cut]
              | d :: r''' =>
                if isTail d then .char (fourBytes a b c d) :: pieces r'''
                else .broken 3 :: pieces (d :: r''')
            else .broken 2 :: pieces (c :: r'')
        else .broken 1 :: pieces (b :: r')
    else .broken 1 :: pieces r
termination_by bs => bs.length

/-! ## 2. Strict decoding -/

/-- Where a byte string stops being UTF-8: the number of bytes before the fault, and the number of
bytes in it unless the input ended first. -/
structure Fault where
  index : Nat
  width : Option Nat
  deriving DecidableEq, Repr

def Fault.message (f : Fault) : String :=
  match f.width with
  | some n => s!"invalid utf-8 sequence of {n} bytes from index {f.index}"
  | none => s!"incomplete utf-8 byte sequence from index {f.index}"

/-- Joins pieces into a text; `index` is the number of bytes before the first of them. -/
def join (index : Nat) : List Piece → Except Fault (List Char)
  | [] => .ok []
  | .char c :: ps => (c :: ·) <$> join (index + c.utf8Size) ps
  | .broken n :: _ => .error ⟨index, some n⟩
  | .cut :: _ => .error ⟨index, none⟩

def decode (bs : List UInt8) : Except Fault (List Char) :=
  join 0 (pieces bs)

/-! ## 3. Lossy decoding -/

def Piece.shown : Piece → Char
  | .char c => c
  | .broken _ => '\uFFFD'
  | .cut => '\uFFFD'

/-- Reads a byte string with U+FFFD in the place of every piece that is not a character. -/
def decodeLossy (bs : List UInt8) : List Char :=
  (pieces bs).map Piece.shown

/-! ## 4. Encoding -/

def encode (cs : List Char) : List UInt8 :=
  cs.flatMap String.utf8EncodeChar

def bytes (s : String) : List UInt8 := encode s.toList

end Preflight.Text.Utf8
