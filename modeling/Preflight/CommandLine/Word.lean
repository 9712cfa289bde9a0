import Preflight.Text.Split

/-!
The words of a command line by their form: the mark behind which nothing is an option, options by
their name or by one letter, and everything else. Words are raw bytes.
-/

namespace Preflight.CommandLine

/-- A word as it was given. -/
abbrev Raw := List UInt8

inductive Word where
  -- two hyphens alone
  | mark
  -- a name behind two hyphens, and perhaps a value behind an equals sign
  | long (name : Raw) (value : Option Raw)
  -- a letter behind one hyphen, and what follows it
  | short (letters : Raw)
  | plain
  deriving DecidableEq, Repr

namespace Word

def hyphen : UInt8 := 0x2D

def equals : UInt8 := 0x3D

-- what stands behind two hyphens, as a name and perhaps a value
def ofLong (body : Raw) : Word :=
  let (name, value) := Text.cutAt equals body
  .long name value

-- The form of a word. A hyphen alone is plain.
def ofRaw : Raw → Word
  | a :: b :: rest =>
    if a = hyphen then
      if b = hyphen then (if rest.isEmpty then .mark else ofLong rest) else .short (b :: rest)
    else .plain
  | _ => .plain

end Word

end Preflight.CommandLine
