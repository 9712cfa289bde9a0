import Preflight.Balance
import Preflight.Numeral.Scaled
import Preflight.Text.Letter

/-!
The balance that goes with every call: a whole number in the smallest denomination, or an exact
decimal in tokens, with a multiple in front of the token's symbol.
-/

namespace Preflight

/-- A multiple of one token. -/
inductive TokenMultiple where
  | giga
  | mega
  | kilo
  | one
  | milli
  | micro
  | nano
  deriving DecidableEq, Repr

inductive Transfer where
  -- an amount in the smallest denomination
  | units (amount : Balance)
  -- an amount in a multiple of one token
  | tokens (amount : Numeral.Scaled) (multiple : TokenMultiple) (symbol : List Char)
  deriving DecidableEq, Repr

namespace Transfer

/-! ## 1. Token symbols -/

-- the multiple that a letter in front of a symbol stands for
def multiple? : Char → Option TokenMultiple
  | 'G' => some .giga
  | 'M' => some .mega
  | 'k' => some .kilo
  | 'm' => some .milli
  | '\u03BC' => some .micro
  | 'n' => some .nano
  | _ => none

-- whether a character belongs to the number in front of a symbol
def isNumberChar (c : Char) : Bool :=
  Text.isNumeric c || c == '.' || c == ','

/-- The multiple and the symbol that a text begins with. The letter of a multiple cannot be the
whole symbol. -/
def multipleAndSymbol : List Char → Except String (TokenMultiple × List Char)
  | [] => .error "no units or symbols present"
  | c :: rest =>
    match multiple? c, rest with
    | none, _ => .ok (.one, c :: rest)
    | some _, [] => .error "cannot find the first char's index"
    | some m, _ => .ok (m, rest)

-- what is left of a text without the letters at its end
def withoutLetters (cs : List Char) : List Char :=
  (cs.reverse.dropWhile Text.isAlphabetic).reverse

def badNumber : String :=
  "Error while parsing the value. Please denominate and normalize the balance first."

/-- Reads an amount in tokens. The symbol is checked before the number. -/
def readTokens (cs : List Char) : Except String Transfer := do
  let (multiple, symbol) ← multipleAndSymbol (cs.dropWhile isNumberChar)
  match Numeral.Scaled.read? (withoutLetters cs) with
  | some amount => return .tokens amount multiple symbol
  | none => throw badNumber

/-! ## 2. Reading -/

/-- Reads an amount, without its underscores: in the smallest denomination if it is a balance, and
in tokens otherwise. -/
def read (cs : List Char) : Except String Transfer :=
  let cs := cs.filter (· != '_')
  match Balance.readNumeral cs with
  | .ok amount => .ok (.units amount)
  | .error _ => readTokens cs

def parse (s : String) : Except Fault Transfer :=
  match read s.toList with
  | .ok t => .ok t
  | .error message => .error (.balance message)

end Transfer

end Preflight
