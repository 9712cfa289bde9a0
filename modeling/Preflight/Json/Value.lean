import Preflight.Numeral.Binary
import Preflight.Text.Hex

/-!
Reading JSON texts. A text holds one value with insignificant white space around it; arrays and
objects may be nested one hundred and twenty-seven deep, and numbers have to be finite when they are
rounded to fifty-three bits.
-/

namespace Preflight.Json

/-! ## 1. Values -/

inductive Value where
  | null
  | boolean (b : Bool)
  -- a number, as it is written
  | number (text : List Char)
  | text (s : List Char)
  | array (items : List Value)
  | object (pairs : List (List Char × Value))

-- the value of the first pair with a key
def Value.get? (pairs : List (List Char × Value)) (key : String) : Option Value :=
  pairs.lookup key.toList

def Value.count (pairs : List (List Char × Value)) (key : String) : Nat :=
  (pairs.filter fun p => p.1 == key.toList).length

/-! ## 2. White space and numbers -/

def isSpace (c : Char) : Bool := c == ' ' || c == '\t' || c == '\n' || c == '\r'

def skipSpace (cs : List Char) : List Char := cs.dropWhile isSpace

def isNumberChar (c : Char) : Bool :=
  c.isDigit || c == '-' || c == '+' || c == '.' || c == 'e' || c == 'E'

def digitsOf (cs : List Char) : List Nat := cs.map fun c => c.toNat - 48

/-- What is behind the whole part of a number, and its digits: a zero alone, or digits that begin
with another. -/
def wholePart? : List Char → Option (List Char × List Char)
  | '0' :: rest => some (['0'], rest)
  | cs =>
    let digits := cs.takeWhile Char.isDigit
    if digits.isEmpty then none else some (digits, cs.dropWhile Char.isDigit)

/-- What is behind the fraction of a number, and its digits, if it has one. -/
def fractionPart? : List Char → Option (List Char × List Char)
  | '.' :: rest =>
    let digits := rest.takeWhile Char.isDigit
    if digits.isEmpty then none else some (digits, rest.dropWhile Char.isDigit)
  | cs => some ([], cs)

/-- The exponent that a number ends with, if it has one: whether it is negative, and its digits. -/
def exponentPart? : List Char → Option (Bool × List Char)
  | [] => some (false, [])
  | c :: rest =>
    if c = 'e' || c = 'E' then
      let (negative, digits) := match rest with
        | '-' :: r => (true, r)
        | '+' :: r => (false, r)
        | r => (false, r)
      if digits.isEmpty || !digits.all Char.isDigit then none else some (negative, digits)
    else none

def isNumber (cs : List Char) : Bool :=
  let (negative, cs) := match cs with
    | '-' :: r => (true, r)
    | r => (false, r)
  (do
    let (whole, cs) ← wholePart? cs
    let (fraction, cs) ← fractionPart? cs
    let (down, exponent) ← exponentPart? cs
    let magnitude : Int := Numeral.Binary.valueOf (digitsOf exponent)
    let x := Numeral.Binary.ofDecimal negative (digitsOf (whole ++ fraction))
      ((if down then -magnitude else magnitude) - fraction.length)
    return x.isFinite).getD false

/-! ## 3. Strings -/

def hexFour? (a b c d : Char) : Option Nat := do
  let a ← Text.Hex.value? a
  let b ← Text.Hex.value? b
  let c ← Text.Hex.value? c
  let d ← Text.Hex.value? d
  return ((a * 16 + b) * 16 + c) * 16 + d

def isHighHalf (n : Nat) : Bool := 0xD800 ≤ n && n ≤ 0xDBFF

def isLowHalf (n : Nat) : Bool := 0xDC00 ≤ n && n ≤ 0xDFFF

-- the character that a letter behind a backslash stands for
def shortEscape? : Char → Option Char
  | '"' => some '"'
  | '\\' => some '\\'
  | '/' => some '/'
  | 'b' => some '\x08'
  | 'f' => some '\x0c'
  | 'n' => some '\n'
  | 'r' => some '\r'
  | 't' => some '\t'
  | _ => none

/-- Reads a string behind its opening quotes, and gives its text and what is behind it. -/
def readString? : List Char → Option (List Char × List Char)
  | [] => none
  | '"' :: rest => some ([], rest)
  | '\\' :: 'u' :: a :: b :: c :: d :: rest =>
    match hexFour? a b c d with
    | none => none
    | some n =>
      if isLowHalf n then none
      else if isHighHalf n then
        match rest with
        | '\\' :: 'u' :: a' :: b' :: c' :: d' :: rest' =>
          match hexFour? a' b' c' d' with
          | none => none
          | some m =>
            if isLowHalf m then
              let code := 0x10000 + (n - 0xD800) * 0x400 + (m - 0xDC00)
              (readString? rest').map fun (text, r) => (Char.ofNat code :: text, r)
            else none
        | _ => none
      else (readString? rest).map fun (text, r) => (Char.ofNat n :: text, r)
  | '\\' :: c :: rest =>
    match shortEscape? c with
    | none => none
    | some x => (readString? rest).map fun (text, r) => (x :: text, r)
  | c :: rest =>
    if c.toNat < 0x20 || c = '\\' then none
    else (readString? rest).map fun (text, r) => (c :: text, r)

/-! ## 4. Values from text -/

-- the depth to which arrays and objects may be nested
def maxDepth : Nat := 127

mutual

/-- Reads a value with white space before it in at most `bound` steps, nested at most `depth` deep,
and gives what is behind it. -/
def readValue? (bound depth : Nat) (cs : List Char) : Option (Value × List Char) :=
  match bound with
  | 0 => none
  | bound + 1 =>
    match skipSpace cs with
    | 'n' :: 'u' :: 'l' :: 'l' :: rest => some (.null, rest)
    | 't' :: 'r' :: 'u' :: 'e' :: rest => some (.boolean true, rest)
    | 'f' :: 'a' :: 'l' :: 's' :: 'e' :: rest => some (.boolean false, rest)
    | '"' :: rest => (readString? rest).map fun (text, r) => (.text text, r)
    | '[' :: rest =>
      match depth with
      | 0 => none
      | depth + 1 =>
        match skipSpace rest with
        | ']' :: r => some (.array [], r)
        | _ => (readItems? bound depth rest).map fun (items, r) => (.array items, r)
    | '\x7b' :: rest =>
      match depth with
      | 0 => none
      | depth + 1 =>
        match skipSpace rest with
        | '\x7d' :: r => some (.object [], r)
        | _ => (readPairs? bound depth rest).map fun (pairs, r) => (.object pairs, r)
    | cs =>
      let run := cs.takeWhile isNumberChar
      if isNumber run then some (.number run, cs.dropWhile isNumberChar) else none

-- reads the items of an array up to its closing bracket
def readItems? (bound depth : Nat) (cs : List Char) : Option (List Value × List Char) :=
  match bound with
  | 0 => none
  | bound + 1 =>
    match readValue? bound depth cs with
    | none => none
    | some (v, rest) =>
      match skipSpace rest with
      | ',' :: r => (readItems? bound depth r).map fun (more, r) => (v :: more, r)
      | ']' :: r => some ([v], r)
      | _ => none

-- reads the pairs of an object up to its closing brace
def readPairs? (bound depth : Nat) (cs : List Char) :
    Option (List (List Char × Value) × List Char) :=
  match bound with
  | 0 => none
  | bound + 1 =>
    match skipSpace cs with
    | '"' :: rest =>
      match readString? rest with
      | none => none
      | some (key, rest) =>
        match skipSpace rest with
        | ':' :: r =>
          match readValue? bound depth r with
          | none => none
          | some (v, rest) =>
            match skipSpace rest with
            | ',' :: r => (readPairs? bound depth r).map fun (more, r) => ((key, v) :: more, r)
            | '\x7d' :: r => some ([(key, v)], r)
            | _ => none
        | _ => none
    | _ => none

end

/-- The value that a text holds. Every step down takes a character or is followed by one that does,
so the bound is never reached. -/
def parse? (cs : List Char) : Option Value :=
  match readValue? (2 * cs.length + 2) maxDepth cs with
  | some (v, rest) => if (skipSpace rest).isEmpty then some v else none
  | none => none

end Preflight.Json
