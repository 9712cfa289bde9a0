import Preflight.Toml.Number

/-!
Values of a TOML document and how they are read from its tokens. Every value keeps the offset at
which a fault in it is reported.
-/

namespace Preflight.Toml

/-! ## 1. Values -/

inductive Value where
  | integer (offset : Nat) (n : Int)
  | float (offset : Nat) (x : Numeral.Binary)
  | boolean (offset : Nat) (b : Bool)
  | text (offset : Nat) (s : String)
  | datetime (offset : Nat)
  | array (offset : Nat) (items : List Value)
  -- a table between braces
  | inlineTable (offset : Nat) (pairs : List (String × Value))
  -- a table that dotted keys make
  | dottedTable (offset : Nat) (pairs : List (String × Value))

namespace Value

def offset : Value → Nat
  | integer o _ => o
  | float o _ => o
  | boolean o _ => o
  | text o _ => o
  | datetime o => o
  | array o _ => o
  | inlineTable o _ => o
  | dottedTable o _ => o

def sort : Value → String
  | integer .. => "integer"
  | float .. => "float"
  | boolean .. => "boolean"
  | text .. => "string"
  | datetime _ => "datetime"
  | array .. => "array"
  | inlineTable .. => "inline table"
  | dottedTable .. => "dotted table"

end Value

/-- Keys with their values, in the order of the document. -/
abbrev Pairs := List (String × Value)

/-! ## 2. Dotted keys -/

/-- Puts a value under a key of one or more parts. The parts before the last one name tables that
other dotted keys may have begun. -/
def insertAt (value : Value) : List String → Pairs → Except Fault Pairs
  | [], pairs => .ok pairs
  | [key], pairs => .ok (pairs ++ [(key, value)])
  | key :: keys, pairs =>
    match pairs.findIdx? (·.1 == key) with
    | none => do
      let inner ← insertAt value keys []
      return pairs ++ [(key, .dottedTable value.offset inner)]
    | some i =>
      match pairs[i]? with
      | some (_, .dottedTable offset inner) => do
        let inner ← insertAt value keys inner
        return pairs.set i (key, .dottedTable offset inner)
      | some (_, other) => .error (.here .dottedThroughValue other.offset)
      | none => .ok pairs

/-! ## 3. Reading tokens -/

/-- What is behind the tokens: the fault that ended them, or the end of the document. -/
structure Finish where
  fault : Option Fault
  -- the length of the document in bytes
  length : Nat

/-- A reader of tokens. -/
abbrev Parse := ReaderT Finish (StateT (List Token) (Except Fault))

namespace Parse

def peek : Parse (Option Token) := do
  match (← get), (← read).fault with
  | t :: _, _ => return some t
  | [], none => return none
  | [], some f => throw f

def next : Parse (Option Token) := do
  let t ← peek
  modify (·.drop 1)
  return t

-- the offset of the next token, or the end of the document
def current : Parse Nat := do
  match (← get) with
  | t :: _ => return t.offset
  | [] => return (← read).length

def fail {α : Type} (kind : Kind) (offset : Nat) : Parse α :=
  throw (.here kind offset)

-- takes the next token if it is `l`, and tells whether it was
def eat (l : Lexeme) : Parse Bool := do
  match ← peek with
  | some t =>
    if t.lexeme = l then
      modify (·.drop 1)
      return true
    else return false
  | none => return false

def expect (l : Lexeme) : Parse Unit := do
  match ← next with
  | some t =>
    unless t.lexeme = l do
      fail (.wanted l.description t.lexeme.description) t.offset
  | none => fail (.wanted l.description "eof") (← read).length

def skipBlank : Parse Unit := do
  match ← peek with
  | some ⟨_, .blank _⟩ => modify (·.drop 1)
  | _ => return

-- takes an end of line, or nothing at the end of the document
def endOfLine : Parse Unit := do
  match ← next with
  | none => return
  | some t =>
    unless t.lexeme = .newline do
      fail (.wanted "newline" t.lexeme.description) t.offset

/-- Takes a comment and its end of line, and tells whether there was one. -/
def comment : Parse Bool := do
  if ← eat .comment then
    endOfLine
    return true
  else return false

/-- Takes the rest of a line: blanks, and a comment or the end of the line. -/
def restOfLine : Parse Unit := do
  skipBlank
  unless ← comment do endOfLine

def key : Parse String := do
  match ← next with
  | some ⟨_, .word text⟩ => return String.ofList text
  | some ⟨offset, .quoted text multiline⟩ =>
    if multiline then fail .multilineKey offset else return String.ofList text
  | some t => fail (.wanted "a table key" t.lexeme.description) t.offset
  | none => fail (.wanted "a table key" "eof") (← read).length

/-- Takes further parts of a key, each behind a period; there are at most `bound` of them. -/
def moreKeys : Nat → Parse (List String)
  | 0 => return []
  | bound + 1 => do
    skipBlank
    if ← eat .period then
      skipBlank
      let k ← key
      return k :: (← moreKeys bound)
    else return []

/-- The number of tokens that are left, which bounds what can still be read. -/
def left : Parse Nat := return (← get).length

def dottedKey : Parse (List String) := do
  let k ← key
  return k :: (← moreKeys (← left))

/-! ## 4. Reading numbers and dates -/

/-- The exponent behind the letter at the end of a number, which stands in a token of its own. -/
def looseExponent (start : Nat) : Parse Digits := do
  let _ ← eat .plus
  match ← next with
  | some ⟨offset, .word text⟩ => readDigits { sign := false, leadingZeros := true } offset text
  | _ => fail .badNumber start

/-- The exponent that a number ends with, if it has one, and nothing else behind it. -/
def exponent (start : Nat) (offset : Nat) (rest : List Char) : Parse (Option Digits) := do
  match rest with
  | [] => return none
  | c :: r =>
    if c = 'e' || c = 'E' then
      let run ← if r.isEmpty then looseExponent start
        else readDigits { sign := true, leadingZeros := true } offset r
      if run.rest.isEmpty then return some run else fail .badNumber start
    else fail .badNumber start

/-- A decimal fraction: the text before the point, and the token behind it if there is a point. -/
def float (start : Nat) (text : List Char) (behind : Option (Nat × List Char)) :
    Parse Numeral.Binary := do
  let whole ← readDigits { sign := true, leadingZeros := false } start text
  let (fractional, offset, rest) ← match behind with
    | none => pure ([], start + (text.length - whole.rest.length) + 1, whole.rest)
    | some (after, digits) => do
      unless whole.rest.isEmpty do fail .badNumber start
      let run ← readDigits { sign := false, leadingZeros := true } after digits
      pure (run.digits, after + (digits.length - run.rest.length) + 1, run.rest)
  let power ← exponent start offset rest
  let f : Fraction := {
    negative := whole.negative
    integral := whole.digits
    fractional
    exponentNegative := (power.map Digits.negative).getD false
    exponent := (power.map Digits.digits).getD [] }
  f.number start

def holdsExponent (text : List Char) : Bool :=
  text.contains 'e' || text.contains 'E'

/-- A number whose first token has a text; `offset` is where the number begins and `start` where the
text does. -/
def number (offset start : Nat) (text : List Char) : Parse Value := do
  match basePrefixed? text with
  | some (radix, digits) =>
    return .integer offset
      (← readInteger { radix, sign := false, leadingZeros := true } (start + 2) digits)
  | none =>
    if holdsExponent text then return .float offset (← float start text none)
    else if ← eat .period then
      let behind ← current
      match ← next with
      | some ⟨after, .word digits⟩ =>
        return .float after (← float start text (some (after, digits)))
      | _ => fail .badNumber behind
    else if text = ['i', 'n', 'f'] then return .float offset (.infinite false)
    else if text = ['-', 'i', 'n', 'f'] then return .float offset (.infinite true)
    else if text = ['n', 'a', 'n'] || text = ['-', 'n', 'a', 'n'] then
      return .float offset .undefined
    else
      return .integer offset (← readInteger { sign := true, leadingZeros := false } start text)

def dateWord (start : Nat) : Parse Unit := do
  match ← next with
  | some ⟨_, .word _⟩ => return
  | _ => fail .badDate start

/-- The rest of a date that began at an offset: perhaps an hour behind one space, and minutes,
seconds, a fraction and an offset behind the hour. -/
def date (start : Nat) (colonTaken : Bool) : Parse Unit := do
  match (← get) with
  | ⟨_, .blank [' ']⟩ :: ⟨_, .word _⟩ :: rest => set rest
  | _ => pure ()
  let colon ← if colonTaken then pure true else eat .colon
  if colon then
    dateWord start
    expect .colon
    dateWord start
    if ← eat .period then dateWord start
    if ← eat .plus then dateWord start
    if ← eat .colon then dateWord start

-- whether a word is the front of a date rather than a number
def isDateWord (text : List Char) : Bool :=
  text.contains 'T' || text.contains 't'
    || ((text.drop 1).contains '-' && !holdsExponentSign text)
where
  -- whether a minus sign stands right behind the letter of an exponent
  holdsExponentSign : List Char → Bool
    | 'e' :: '-' :: _ => true
    | 'E' :: '-' :: _ => true
    | _ :: r => holdsExponentSign r
    | [] => false

def numberOrDate (start : Nat) (text : List Char) : Parse Value := do
  if isDateWord text then
    date start false
    return .datetime start
  else if ← eat .colon then
    date start true
    return .datetime start
  else number start start text

def wordValue (start : Nat) (text : List Char) : Parse Value :=
  if text = ['t', 'r', 'u', 'e'] then return .boolean start true
  else if text = ['f', 'a', 'l', 's', 'e'] then return .boolean start false
  else if text = ['i', 'n', 'f'] || text = ['n', 'a', 'n'] then numberOrDate start text
  else
    match text with
    | c :: _ => if c = '-' || c.isDigit then numberOrDate start text else fail .unquotedString start
    | [] => fail .unquotedString start

-- a number behind a plus sign at an offset
def plusValue (offset : Nat) : Parse Value := do
  let behind ← current
  match ← next with
  | some ⟨start, .word text⟩ => number offset start text
  | _ => fail .badNumber behind

/-! ## 5. Reading values -/

/-- Takes blanks, ends of lines and comments, of which there are at most `bound`. -/
def skipLines : Nat → Parse Unit
  | 0 => return
  | bound + 1 => do
    skipBlank
    if ← eat .newline then skipLines bound
    else if ← comment then skipLines bound
    else return

mutual

-- takes a value in at most `bound` steps down
def valueWithin : Nat → Parse Value
  | 0 => do fail .unexpectedEnd (← read).length
  | bound + 1 => do
    match ← next with
    | none => fail .unexpectedEnd (← read).length
    | some ⟨offset, lexeme⟩ =>
      match lexeme with
      | .quoted text _ => return .text offset (String.ofList text)
      | .word text => wordValue offset text
      | .plus => plusValue offset
      | .leftBrace => do
        skipBlank
        if ← eat .rightBrace then return .inlineTable offset []
        else return .inlineTable offset (← pairsWithin bound [])
      | .leftBracket => return .array offset (← itemsWithin bound)
      | other => fail (.wanted "a value" other.description) offset

-- takes the items of an array and its closing bracket
def itemsWithin : Nat → Parse (List Value)
  | 0 => do fail .unexpectedEnd (← read).length
  | bound + 1 => do
    skipLines (← left)
    if ← eat .rightBracket then return []
    else
      let v ← valueWithin bound
      skipLines (← left)
      if ← eat .comma then return v :: (← itemsWithin bound)
      else
        expect .rightBracket
        return [v]

/-- Takes the pairs of a table between braces and its closing brace, behind the pairs so far. -/
def pairsWithin : Nat → Pairs → Parse Pairs
  | 0, _ => do fail .unexpectedEnd (← read).length
  | bound + 1, pairs => do
    let k ← dottedKey
    skipBlank
    expect .equals
    skipBlank
    let v ← valueWithin bound
    let pairs ← insertAt v k pairs
    skipBlank
    if ← eat .rightBrace then return pairs
    else
      expect .comma
      skipBlank
      pairsWithin bound pairs

end

/-- Takes a value. Each nested value is at least one token shorter and two steps down, so the bound
is never reached. -/
def value : Parse Value := do
  valueWithin (2 * (← left) + 1)

end Parse

end Preflight.Toml
