import Preflight.Toml.Value

/-!
The sections of a TOML document: the pairs before the first header, and the pairs behind each
header.
-/

namespace Preflight.Toml

/-- A header and the pairs behind it. -/
structure Section where
  -- the offset of the header
  offset : Nat
  -- the parts of the header; the pairs before the first header have none
  header : List String
  -- whether the header stands in double brackets
  isArray : Bool
  pairs : Pairs

namespace Section

def root : Section := ⟨0, [], false, []⟩

/-- Whether a section is there at all: the one before the first header is only if it has pairs. -/
def isPresent (s : Section) : Bool :=
  !s.header.isEmpty || !s.pairs.isEmpty

-- the name of a section, its parts joined by periods
def name (s : Section) : String := String.intercalate "." s.header

end Section

namespace Parse

def header : Parse Section := do
  let offset ← current
  expect .leftBracket
  let isArray ← eat .leftBracket
  skipBlank
  let parts ← dottedKey
  expect .rightBracket
  if isArray then expect .rightBracket
  restOfLine
  return ⟨offset, parts, isArray, []⟩

/-- Takes a pair and the rest of its line, and puts it into some pairs. -/
def pair (pairs : Pairs) : Parse Pairs := do
  let k ← dottedKey
  skipBlank
  expect .equals
  skipBlank
  let v ← value
  restOfLine
  insertAt v k pairs

/-- Takes the lines that are left, at most `bound` of them, behind the section so far. -/
def sectionsWithin : Nat → Section → Parse (List Section)
  | 0, begun => return [begun]
  | bound + 1, begun => do
    skipLines (← left)
    match ← peek with
    | none => return [begun]
    | some t =>
      if t.lexeme = .leftBracket then
        let s ← header
        return begun :: (← sectionsWithin bound s)
      else
        let pairs ← pair begun.pairs
        sectionsWithin bound { begun with pairs }

end Parse

/-- The sections of a document. Every line takes a token, so the number of tokens bounds them. -/
def sections (document : List Char) : Except Fault (List Section) := do
  let ts := lex (marks document)
  let length := (String.ofList document).utf8ByteSize
  let (all, _) ← (Parse.sectionsWithin (ts.tokens.length + 1) .root).run ⟨ts.fault, length⟩
    |>.run ts.tokens
  return all.filter Section.isPresent

end Preflight.Toml
