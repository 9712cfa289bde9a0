import Preflight.Text.Split
import Preflight.Text.Utf8

/-!
Paths as raw bytes: segments between slashes, the name that a path ends with, and the parts of a
name around its last period.
-/

namespace Preflight.Files

/-- A path, or the name of a file. -/
abbrev Path := List UInt8

namespace Path

def slash : UInt8 := 0x2F

def period : UInt8 := 0x2E

def ofString (s : String) : Path := Text.Utf8.bytes s

-- a path as text, with U+FFFD for what is not UTF-8
def shown (p : Path) : String := String.ofList (Text.Utf8.decodeLossy p)

/-! ## 1. Segments -/

/-- What stands between the slashes of a path; segments may be empty. -/
def segments (p : Path) : List Path := Text.splitAt slash p

def isAbsolute (p : Path) : Bool := p.head? == some slash

def here : Path := [period]

def up : Path := [period, period]

-- whether a segment leads nowhere
def isIdle (segment : Path) : Bool := segment.isEmpty || segment == here

def steps (p : Path) : List Path := p.segments.filter fun s => !isIdle s

/-! ## 2. Names -/

-- the name that a path ends with, unless it ends by going up
def fileName (p : Path) : Option Path :=
  match p.steps.getLast? with
  | none => none
  | some name => if name = up then none else some name

/-- The parts of a name before and behind its last period. A period at the front does not count. -/
def splitName (name : Path) : Path × Option Path :=
  let behind := (name.reverse.takeWhile (· != period)).reverse
  let before := name.take (name.length - behind.length - 1)
  if before.isEmpty || behind.length = name.length then (name, none) else (before, some behind)

-- the name that a path ends with, without its extension
def stem (p : Path) : Option Path := p.fileName.map fun name => (splitName name).1

def extension (p : Path) : Option Path := p.fileName.bind fun name => (splitName name).2

/-! ## 3. Neighbours -/

def join (p name : Path) : Path :=
  if p.isEmpty then name
  else if p.getLast? = some slash then p ++ name
  else p ++ slash :: name

/-- The path of the directory that a path with a name at its end lies in. -/
def directory (p : Path) : Path :=
  let kept := (p.segments.dropLast.reverse.dropWhile isIdle).reverse
  if !kept.isEmpty then Text.joinBy slash kept
  else if p.isAbsolute then [slash]
  else if 1 < p.segments.length then here
  else []

/-- The fronts of a path, each longer by a segment, up to the path itself. -/
def fronts (p : Path) : List Path :=
  (List.range p.segments.length).map fun i => Text.joinBy slash (p.segments.take (i + 1))

/-- The names from the root down that a path leads to from a directory if every segment before a
step up is a directory. -/
def namesFrom (base : List Path) (p : Path) : List Path :=
  p.steps.foldl (fun names s => if s = up then names.dropLast else names ++ [s])
    (if p.isAbsolute then [] else base)

end Path

end Preflight.Files
