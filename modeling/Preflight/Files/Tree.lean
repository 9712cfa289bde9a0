import Preflight.Files.Path

/-!
A tree of files with a working directory: finding what a path leads to, reading it, and the
canonical form of a path. Links are followed, a bounded number of them for one path. Files and
directories may be closed to the one who looks.
-/

namespace Preflight.Files

/-! ## 1. Trees -/

/-- What stands under a name. -/
inductive Node where
  | file (content : List UInt8)
  -- a file that must not be read
  | closedFile
  | directory
  -- a directory that must neither be read nor searched
  | closedDirectory
  | link (target : Path)
  deriving DecidableEq, Repr

/-- Files and directories by the names that lead to them from the root. What is above an entry is a
directory, and so is all that is above the working directory. -/
structure Tree where
  -- the names from the root to the working directory
  base : List Path
  entries : List (List Path × Node)
  deriving DecidableEq, Repr

/-- Why a path cannot be followed or a file cannot be read. -/
inductive Fault where
  | notFound
  | denied
  | notADirectory
  | isADirectory
  | nameTooLong
  | tooManyLinks
  | nulByte
  | notUtf8
  deriving DecidableEq, Repr

def Fault.message : Fault → String
  | .notFound => "No such file or directory (os error 2)"
  | .denied => "Permission denied (os error 13)"
  | .notADirectory => "Not a directory (os error 20)"
  | .isADirectory => "Is a directory (os error 21)"
  | .nameTooLong => "File name too long (os error 36)"
  | .tooManyLinks => "Too many levels of symbolic links (os error 40)"
  | .nulByte => "file name contained an unexpected NUL byte"
  | .notUtf8 => "stream did not contain valid UTF-8"

namespace Tree

def lookUp (t : Tree) (names : List Path) : Option Node :=
  match t.entries.lookup names with
  | some node => some node
  | none =>
    if names.isPrefixOf t.base || t.entries.any fun e => names.isPrefixOf e.1 then some .directory
    else none

/-! ## 2. Following paths -/

def maxName : Nat := 255

def maxPath : Nat := 4095

def follow (t : Tree) (names : List Path) (segment : Path) : Except Fault (List Path) :=
  if Path.isIdle segment then .ok names
  else if segment = Path.up then .ok names.dropLast
  else if maxName < segment.length then .error .nameTooLong
  else
    match t.lookUp (names ++ [segment]) with
    | some _ => .ok (names ++ [segment])
    | none => .error .notFound

/-- Follows segments one after the other; each starts from a directory. A link is handed to `onward`,
with the names that its target starts from and the segments that remain. -/
def followAll (t : Tree) (onward : List Path → List Path → Except Fault (List Path))
    (names : List Path) : List Path → Except Fault (List Path)
  | [] => .ok names
  | segment :: rest =>
    match t.lookUp names with
    | some .directory => do
      let found ← t.follow names segment
      match t.lookUp found with
      | some (.link target) =>
        onward (if target.isAbsolute then [] else names) (target.segments ++ rest)
      | _ => t.followAll onward found rest
    | some .closedDirectory => .error .denied
    | _ => .error .notADirectory

def maxLinks : Nat := 40

/-- Follows segments through at most some number of links. -/
def followWithin (t : Tree) : Nat → List Path → List Path → Except Fault (List Path)
  | 0 => t.followAll fun _ _ => .error .tooManyLinks
  | links + 1 => t.followAll (t.followWithin links)

-- the names from the root down that a path leads to, none of them a link
def locate (t : Tree) (p : Path) : Except Fault (List Path) :=
  if p.contains 0 then .error .nulByte
  else if p.isEmpty then .error .notFound
  else if maxPath < p.length then .error .nameTooLong
  else t.followWithin maxLinks (if p.isAbsolute then [] else t.base) p.segments

/-! ## 3. Questions -/

def find (t : Tree) (p : Path) : Option Node :=
  match t.locate p with
  | .ok names => t.lookUp names
  | .error _ => none

def isFile (t : Tree) (p : Path) : Bool :=
  match t.find p with
  | some (.file _) => true
  | some .closedFile => true
  | _ => false

def isThere (t : Tree) (p : Path) : Bool := (t.find p).isSome

def readBytes (t : Tree) (p : Path) : Except Fault (List UInt8) := do
  match t.lookUp (← t.locate p) with
  | some (.file content) => return content
  | some .closedFile => throw .denied
  | some .directory => throw .isADirectory
  | some .closedDirectory => throw .denied
  | _ => throw .notFound

def readText (t : Tree) (p : Path) : Except Fault String := do
  match Text.Utf8.decode (← t.readBytes p) with
  | .ok cs => return String.ofList cs
  | .error _ => throw .notUtf8

end Tree

end Preflight.Files
