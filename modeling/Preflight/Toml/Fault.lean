import Preflight.Text.Quoted

/-!
What can be wrong with a TOML document, where it lies, and how it is told. A fault has a kind, the
offset in bytes at which it lies, and the keys that lead to it from the outside in.
-/

namespace Preflight.Toml

/-! ## 1. Kinds -/

inductive Kind where
  | unexpectedEnd
  | badStringChar (c : Char)
  | badEscape (c : Char)
  | badHexEscape (c : Char)
  | badEscapeValue (n : Nat)
  | newlineInString
  | unexpectedChar (c : Char)
  | unterminatedString
  | wanted (expected found : String)
  | badNumber
  | badDate
  | duplicateTable (name : String)
  | multilineKey
  | expectedEmptyTable
  -- a dotted key goes through something that is no table
  | dottedThroughValue
  | unquotedString
  -- the document is well formed, but does not hold what is read from it
  | unfit (message : String)
  deriving DecidableEq, Repr

def Kind.message : Kind → String
  | unexpectedEnd => "unexpected eof encountered"
  | badStringChar c => s!"invalid character in string: `{Text.Quoted.ascii c}`"
  | badEscape c => s!"invalid escape character in string: `{Text.Quoted.ascii c}`"
  | badHexEscape c => s!"invalid hex escape character in string: `{Text.Quoted.ascii c}`"
  | badEscapeValue n => s!"invalid escape value: `{n}`"
  | newlineInString => "newline in string found"
  | unexpectedChar c => s!"unexpected character found: `{Text.Quoted.ascii c}`"
  | unterminatedString => "unterminated string"
  | wanted expected found => s!"expected {expected}, found {found}"
  | badNumber => "invalid number"
  | badDate => "invalid date"
  | duplicateTable name => s!"redefinition of table `{name}`"
  | multilineKey => "multiline strings are not allowed for key"
  | expectedEmptyTable => "expected empty table"
  | dottedThroughValue => "dotted key attempted to extend non-table type"
  | unquotedString => "invalid TOML value, did you mean to use a quoted string?"
  | unfit message => message

/-! ## 2. Faults -/

structure Fault where
  kind : Kind
  -- the offset in bytes, if it is known
  offset : Option Nat
  -- the keys that lead to the fault
  path : List String := []
  deriving DecidableEq, Repr

namespace Fault

def here (kind : Kind) (offset : Nat) : Fault := { kind, offset := some offset }

-- a fault whose place is not known yet
def nowhere (kind : Kind) : Fault := { kind, offset := none }

-- puts a fault at an offset, unless its place is known
def orAt (f : Fault) (offset : Nat) : Fault :=
  { f with offset := some (f.offset.getD offset) }

def under (f : Fault) (key : String) : Fault :=
  { f with path := key :: f.path }

end Fault

/-! ## 3. Lines and columns -/

/-- The lengths in bytes of the lines of a text; behind the last line feed there is a line only if
there is a character. -/
def lineLengths (length : Nat) : List Char → List Nat
  | [] => if length = 0 then [] else [length]
  | c :: cs => if c = '\n' then length :: lineLengths 0 cs else lineLengths (length + c.utf8Size) cs

/-- The line and the column of an offset, both counted from zero; the column counts bytes. The first
line begins at offset `start` and has number `line`. An offset behind the last line is the start of
a line that is not there. -/
def place (line start : Nat) (offset : Nat) : List Nat → Nat × Nat
  | [] => (line, 0)
  | length :: rest =>
    if offset < start + length + 1 then (line, offset - start)
    else place (line + 1) (start + length + 1) offset rest

def Fault.message (document : List Char) (f : Fault) : String :=
  let path := String.intercalate "." f.path
  let keys := if f.path.isEmpty then "" else s!" for key `{path}`"
  let position := match f.offset with
    | none => ""
    | some offset =>
      let (line, column) := place 0 0 offset (lineLengths 0 document)
      s!" at line {line + 1} column {column + 1}"
  f.kind.message ++ keys ++ position

end Preflight.Toml
