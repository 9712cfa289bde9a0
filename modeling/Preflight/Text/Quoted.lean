import Preflight.Text.Printable

/-!
Quoted text for messages: a text or a character between quotes, in which what would not be seen or
would end the quotes is written with a backslash. A combining or unprintable character is written
by its code point in hexadecimal.
-/

namespace Preflight.Text.Quoted

/-! ## 1. Escapes -/

/-- The lower-case hexadecimal digits of a number, without leading zeros. -/
def hexDigits (n : Nat) : List Char :=
  Nat.toDigits 16 n

def codePoint (c : Char) : List Char :=
  ['\\', 'u', '\x7b'] ++ hexDigits c.toNat ++ ['\x7d']

-- how one character is written between the quotes `quote`
def escape (quote : Char) (c : Char) : List Char :=
  if c = '\x00' then ['\\', '0']
  else if c = '\t' then ['\\', 't']
  else if c = '\r' then ['\\', 'r']
  else if c = '\n' then ['\\', 'n']
  else if c = '\\' || c = quote then ['\\', c]
  else if isCombining c || !isPrintable c then codePoint c
  else [c]

/-! ## 2. Quoted forms -/

def text (s : String) : String :=
  String.ofList ('"' :: s.toList.flatMap (escape '"') ++ ['"'])

def char (c : Char) : String :=
  String.ofList ('\'' :: escape '\'' c ++ ['\''])

/-! ## 3. Plain seven-bit form -/

/-- A character in seven-bit characters, without quotes: both quotes and the backslash take a
backslash, and what is not printable ASCII is written by its code point. -/
def ascii (c : Char) : String :=
  String.ofList <|
    if c = '\t' then ['\\', 't']
    else if c = '\r' then ['\\', 'r']
    else if c = '\n' then ['\\', 'n']
    else if c = '\'' || c = '"' || c = '\\' then ['\\', c]
    else if 0x20 ≤ c.toNat && c.toNat ≤ 0x7E then [c]
    else codePoint c

end Preflight.Text.Quoted
