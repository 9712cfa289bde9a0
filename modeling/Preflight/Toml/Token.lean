import Preflight.Text.Hex
import Preflight.Toml.Fault

/-!
The tokens of a TOML document. The characters are first marked with their offsets in bytes, and a
carriage return before a line feed is dropped. Then one token after the other is taken off the
front; the first fault ends the tokens. What a token is depends on nothing before it.
-/

namespace Preflight.Toml

/-! ## 1. Marked characters -/

/-- A character and the offset at which it begins. -/
abbrev Mark := Nat × Char

/-- Marks a text that begins at an offset. A carriage return and a line feed count as one line
feed. -/
def marksFrom (offset : Nat) : List Char → List Mark
  | [] => []
  | '\r' :: '\n' :: rest => (offset, '\n') :: marksFrom (offset + 2) rest
  | c :: rest => (offset, c) :: marksFrom (offset + c.utf8Size) rest

-- marks a document, without the byte order mark at its front
def marks : List Char → List Mark
  | '\uFEFF' :: rest => marksFrom 3 rest
  | cs => marksFrom 0 cs

/-! ## 2. Tokens -/

inductive Lexeme where
  | blank (text : List Char)
  | newline
  | comment
  | equals
  | period
  | comma
  | colon
  | plus
  | leftBrace
  | rightBrace
  | leftBracket
  | rightBracket
  -- a run of ASCII letters, digits, hyphens and underscores
  | word (text : List Char)
  -- a string, with its escapes resolved
  | quoted (text : List Char) (multiline : Bool)
  deriving DecidableEq, Repr

def Lexeme.description : Lexeme → String
  | blank _ => "whitespace"
  | newline => "a newline"
  | comment => "a comment"
  | equals => "an equals"
  | period => "a period"
  | comma => "a comma"
  | colon => "a colon"
  | plus => "a plus"
  | leftBrace => "a left brace"
  | rightBrace => "a right brace"
  | leftBracket => "a left bracket"
  | rightBracket => "a right bracket"
  | word _ => "an identifier"
  | quoted _ multiline => if multiline then "a multiline string" else "a string"

/-- A lexeme and the offset at which it begins. -/
structure Token where
  offset : Nat
  lexeme : Lexeme
  deriving DecidableEq, Repr

/-! ## 3. Strings -/

/-- How a string is quoted. -/
structure Style where
  delimiter : Char
  -- whether a backslash begins an escape
  escapes : Bool
  multiline : Bool
  -- the offset of the opening quotes
  offset : Nat

/-- Where reading stands inside a string. -/
inductive Mode where
  -- behind the opening quotes
  | opening
  | plain
  -- behind a backslash
  | escape
  -- inside the digits of a code point: how many are missing, the value so far, and the offset of
  -- the letter before them
  | digits (missing value offset : Nat)
  -- behind a backslash and the blank `c` at an offset, before the end of the line
  | gap (offset : Nat) (c : Char)
  -- behind an escaped end of line
  | margin
  -- behind some delimiters of a multiline string
  | delimiters (count : Nat)
  deriving DecidableEq, Repr

/-- What a character in a string leads to. The text is kept with its last character first. -/
inductive Advance where
  | on (mode : Mode) (text : List Char)
  -- the string ends with the character
  | last (text : List Char)
  -- the string ended before the character
  | past (text : List Char)

-- whether a character may stand in a string as it is
def isStringChar (c : Char) : Bool :=
  c == '\t' || (0x20 ≤ c.toNat && c.toNat != 0x7F)

def charOf? (n : Nat) : Option Char :=
  if n < 0xD800 || (0xDFFF < n && n < 0x110000) then some (Char.ofNat n) else none

def plainChar (style : Style) (m : Mark) (text : List Char) : Except Fault Advance :=
  let (offset, c) := m
  if c = '\n' then
    if style.multiline then .ok (.on .plain ('\n' :: text))
    else .error (.here .newlineInString offset)
  else if c = style.delimiter then
    if style.multiline then .ok (.on (.delimiters 1) text) else .ok (.last text)
  else if style.escapes && c = '\\' then .ok (.on .escape text)
  else if isStringChar c then .ok (.on .plain (c :: text))
  else .error (.here (.badStringChar c) offset)

def escapeChar (style : Style) (m : Mark) (text : List Char) : Except Fault Advance :=
  let (offset, c) := m
  if c = '"' || c = '\\' then .ok (.on .plain (c :: text))
  else if c = 'b' then .ok (.on .plain ('\x08' :: text))
  else if c = 'f' then .ok (.on .plain ('\x0c' :: text))
  else if c = 'n' then .ok (.on .plain ('\n' :: text))
  else if c = 'r' then .ok (.on .plain ('\r' :: text))
  else if c = 't' then .ok (.on .plain ('\t' :: text))
  else if c = 'u' then .ok (.on (.digits 4 0 offset) text)
  else if c = 'U' then .ok (.on (.digits 8 0 offset) text)
  else if style.multiline && c = '\n' then .ok (.on .margin text)
  else if style.multiline && (c = ' ' || c = '\t') then .ok (.on (.gap offset c) text)
  else .error (.here (.badEscape c) offset)

def digitChar (missing value offset : Nat) (m : Mark) (text : List Char) : Except Fault Advance :=
  match Text.Hex.value? m.2 with
  | none => .error (.here (.badHexEscape m.2) m.1)
  | some d =>
    let value := value * 16 + d
    if missing ≤ 1 then
      match charOf? value with
      | some c => .ok (.on .plain (c :: text))
      | none => .error (.here (.badEscapeValue value) offset)
    else .ok (.on (.digits (missing - 1) value offset) text)

/-- What a character leads to where reading stands. A multiline string ends with three delimiters;
up to two more in front of the last three belong to its text. -/
def advance (style : Style) (mode : Mode) (m : Mark) (text : List Char) : Except Fault Advance :=
  match mode with
  | .opening =>
    if style.multiline && m.2 = '\n' then .ok (.on .plain text) else plainChar style m text
  | .plain => plainChar style m text
  | .escape => escapeChar style m text
  | .digits missing value offset => digitChar missing value offset m text
  | .gap offset c =>
    if m.2 = ' ' || m.2 = '\t' then .ok (.on mode text)
    else if m.2 = '\n' then .ok (.on .margin text)
    else .error (.here (.badEscape c) offset)
  | .margin =>
    if m.2 = ' ' || m.2 = '\t' || m.2 = '\n' then .ok (.on .margin text)
    else plainChar style m text
  | .delimiters count =>
    if m.2 = style.delimiter then
      if count = 4 then .ok (.last (style.delimiter :: style.delimiter :: text))
      else .ok (.on (.delimiters (count + 1)) text)
    else if 3 ≤ count then .ok (.past (List.replicate (count - 3) style.delimiter ++ text))
    else plainChar style m (List.replicate count style.delimiter ++ text)

/-- Reads a string up to its end, and gives its text and what is behind it. -/
def readString (style : Style) (mode : Mode) (text : List Char) :
    List Mark → Except Fault (List Char × List Mark)
  | [] =>
    match mode with
    | .delimiters count =>
      if 3 ≤ count then .ok ((List.replicate (count - 3) style.delimiter ++ text).reverse, [])
      else .error (.here .unterminatedString style.offset)
    | _ => .error (.here .unterminatedString style.offset)
  | m :: rest =>
    match advance style mode m text with
    | .error f => .error f
    | .ok (.on mode text) => readString style mode text rest
    | .ok (.last text) => .ok (text.reverse, rest)
    | .ok (.past text) => .ok (text.reverse, m :: rest)

def body (style : Style) (rest : List Mark) : Except Fault (Lexeme × List Mark) :=
  match readString style .opening [] rest with
  | .error f => .error f
  | .ok (text, rest) => .ok (.quoted text style.multiline, rest)

def startsWith (delimiter : Char) : List Mark → Bool
  | [] => false
  | m :: _ => m.2 == delimiter

/-- Reads a string behind its first delimiter, which is at an offset. Two delimiters alone are an
empty string, three open a multiline one. -/
def quoted (delimiter : Char) (escapes : Bool) (offset : Nat) (rest : List Mark) :
    Except Fault (Lexeme × List Mark) :=
  if startsWith delimiter rest then
    if startsWith delimiter (rest.drop 1) then
      body ⟨delimiter, escapes, true, offset⟩ (rest.drop 2)
    else .ok (.quoted [] false, rest.drop 1)
  else body ⟨delimiter, escapes, false, offset⟩ rest

/-! ## 4. The other tokens -/

def isWordChar (c : Char) : Bool :=
  c.isAlphanum || c == '-' || c == '_'

def isLineBlank (c : Char) : Bool :=
  c == ' ' || c == '\t'

def isCommentChar (c : Char) : Bool :=
  c == '\t' || 0x20 ≤ c.toNat

def holds (p : Char → Bool) (m : Mark) : Bool := p m.2

def single? (c : Char) : Option Lexeme :=
  if c = '\n' then some .newline
  else if c = '=' then some .equals
  else if c = '.' then some .period
  else if c = ',' then some .comma
  else if c = ':' then some .colon
  else if c = '+' then some .plus
  else if c = '\x7b' then some .leftBrace
  else if c = '\x7d' then some .rightBrace
  else if c = '[' then some .leftBracket
  else if c = ']' then some .rightBracket
  else none

/-- The characters of a token that begins with `m` and goes on while `p` holds. -/
def run (p : Char → Bool) (m : Mark) (rest : List Mark) : List Char :=
  m.2 :: (rest.takeWhile (holds p)).map Prod.snd

-- the token that begins with a character, and what is behind it
def lexeme (m : Mark) (rest : List Mark) : Except Fault (Lexeme × List Mark) :=
  match single? m.2 with
  | some l => .ok (l, rest)
  | none =>
    if isLineBlank m.2 then
      .ok (.blank (run isLineBlank m rest), rest.dropWhile (holds isLineBlank))
    else if m.2 = '#' then .ok (.comment, rest.dropWhile (holds isCommentChar))
    else if m.2 = '\'' then quoted '\'' false m.1 rest
    else if m.2 = '"' then quoted '"' true m.1 rest
    else if isWordChar m.2 then
      .ok (.word (run isWordChar m rest), rest.dropWhile (holds isWordChar))
    else .error (.here (.unexpectedChar m.2) m.1)

/-! ## 5. Every token is behind the one before it -/

theorem length_dropWhile_marks_le (p : Mark → Bool) (ms : List Mark) :
    (ms.dropWhile p).length ≤ ms.length := by
  induction ms with
  | nil => simp
  | cons m ms ih =>
    simp only [List.dropWhile_cons]
    split <;> simp
    omega

theorem length_readString_le {style : Style} {mode : Mode} {text out : List Char}
    {ms rest : List Mark} (h : readString style mode text ms = .ok (out, rest)) :
    rest.length ≤ ms.length := by
  induction ms generalizing mode text with
  | nil =>
    simp only [readString] at h
    split at h
    · split at h <;> simp_all
    · simp at h
  | cons m ms ih =>
    simp only [readString] at h
    split at h
    · simp at h
    · have := ih h
      simp only [List.length_cons]
      omega
    · simp only [Except.ok.injEq, Prod.mk.injEq] at h
      simp [← h.2]
    · simp only [Except.ok.injEq, Prod.mk.injEq] at h
      simp [← h.2]

theorem length_body_le {style : Style} {l : Lexeme} {ms rest : List Mark}
    (h : body style ms = .ok (l, rest)) : rest.length ≤ ms.length := by
  unfold body at h
  split at h
  · cases h
  · next hread =>
    cases h
    exact length_readString_le hread

theorem length_quoted_le {delimiter : Char} {escapes : Bool} {offset : Nat} {l : Lexeme}
    {ms rest : List Mark} (h : quoted delimiter escapes offset ms = .ok (l, rest)) :
    rest.length ≤ ms.length := by
  unfold quoted at h
  split at h
  · split at h
    · have := length_body_le h
      simp only [List.length_drop] at this
      omega
    · cases h
      simp
  · exact length_body_le h

theorem length_lexeme_le {m : Mark} {l : Lexeme} {ms rest : List Mark}
    (h : lexeme m ms = .ok (l, rest)) : rest.length ≤ ms.length := by
  have drop := length_dropWhile_marks_le
  unfold lexeme at h
  split at h
  · cases h
    exact Nat.le_refl _
  · split at h
    · cases h
      exact drop _ _
    · split at h
      · cases h
        exact drop _ _
      · split at h
        · exact length_quoted_le h
        · split at h
          · exact length_quoted_le h
          · split at h
            · cases h
              exact drop _ _
            · cases h

/-! ## 6. All tokens -/

/-- The tokens of a document up to the first fault, and that fault. -/
structure Tokens where
  tokens : List Token
  fault : Option Fault
  deriving DecidableEq, Repr

def lex : List Mark → Tokens
  | [] => ⟨[], none⟩
  | m :: rest =>
    match h : lexeme m rest with
    | .error f => ⟨[], some f⟩
    | .ok (l, rest') =>
      have : rest'.length < rest.length + 1 := Nat.lt_succ_of_le (length_lexeme_le h)
      let more := lex rest'
      ⟨⟨m.1, l⟩ :: more.tokens, more.fault⟩
termination_by ms => ms.length

end Preflight.Toml
