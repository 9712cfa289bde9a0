import Preflight.Contract.Metadata
import Preflight.Files.Tree

/-!
Artifacts of the build of a contract. An artifact is known by its extension. Metadata has to be
readable, and so have the code of a binary and the metadata that lies beside it.
-/

namespace Preflight.Artifact

open Files (Path Tree)

/-! ## 1. Kinds -/

inductive Kind where
  -- a bundle or plain metadata
  | metadata
  -- the code of the contract
  | binary
  deriving DecidableEq, Repr

def kindOf : Option (List Char) → Except String Kind
  | none => .error "Artifact path has no extension, expected `.contract`, `.json`, or `.polkavm`"
  | some cs =>
    match String.ofList cs with
    | "contract" => .ok .metadata
    | "json" => .ok .metadata
    | "polkavm" => .ok .binary
    | other => .error
      s!"Invalid artifact extension {other}, expected `.contract`, `.json` or `.polkavm`"

-- the extension of a path, if it has one that is text
def extensionText (path : Path) : Option (List Char) :=
  path.extension.bind fun bytes => (Text.Utf8.decode bytes).toOption

/-! ## 2. Reading -/

section Reading

variable [Url.Domains]

def checkMetadata (tree : Tree) (path : Path) : Except String Unit :=
  match tree.readBytes path with
  | .ok content =>
    if Metadata.isMetadataFile content then .ok ()
    else .error s!"Failed to deserialize metadata file {path.shown}"
  -- a directory is opened like a file, and only then it turns out that it cannot be read
  | .error .isADirectory => .error s!"Failed to deserialize metadata file {path.shown}"
  | .error _ => .error s!"Failed to open metadata file {path.shown}"

def besideBinary (path : Path) : Path :=
  path.directory.join ((path.stem.getD []) ++ Path.ofString ".json")

def checkBinary (tree : Tree) (path : Path) : Except String Unit :=
  match tree.readBytes path with
  | .error e => .error e.message
  | .ok _ =>
    let beside := besideBinary path
    if tree.isThere beside then checkMetadata tree beside else .ok ()

/-- Reads the artifact at a path, which is where its code is taken from then. -/
def read (tree : Tree) (path : Path) : Except String Path := do
  match ← kindOf (extensionText path) with
  | .metadata => checkMetadata tree path
  | .binary => checkBinary tree path
  return path

end Reading

end Preflight.Artifact
