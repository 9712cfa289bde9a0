import Preflight.Contract.Artifact
import Preflight.Fault

/-!
What a call is set up with that other libraries do: they read artifacts, and they refuse files that
are no manifests and URLs that nothing may be sent to. Everything that is said about calls is said
for any such libraries, of which one kind is given here.
-/

namespace Preflight

open Files (Path Tree)

/-! ## 1. Libraries -/

/-- What is asked of other libraries before a node is reached, and what they say is wrong. -/
structure Libraries where
  /-- Reads the artifact at a path, and tells where the code is. -/
  readArtifact : Tree → Path → Except String Path
  /-- Checks a file, by the names that lead to it from the root, as the manifest of a project. -/
  checkManifest : List Path → Except String Unit
  /-- Checks a URL before a connection to it is opened. -/
  allowUrl : Url → Except String Unit

/-! ## 2. Projects -/

def manifestName : Path := Path.ofString "Cargo.toml"

/-- The path that the manifest of a project is looked for at. -/
def manifestPath (project : Path) : Path := (Path.ofString project.shown).join manifestName

namespace Libraries

/-- The names from the root down that lead to the manifest of a project. -/
def manifest (lib : Libraries) (tree : Tree) (project : Path) : Except Fault (List Path) :=
  match tree.locate (manifestPath project) with
  | .error e => .error (.file e.message)
  | .ok names =>
    match lib.checkManifest names with
    | .error detail => .error (.config s!"Failed to get manifest path: {detail}")
    | .ok () => .ok names

/-! ## 3. Standard libraries -/

-- A link may have led to a file with another name.
def requireManifestName (names : List Path) : Except String Unit :=
  if names.getLast? = some manifestName then .ok () else .error "Manifest file must be a Cargo.toml"

/-- Whether a URL has to be refused, because secrets may not be sent to it or because it is not for
a web socket. -/
def requireSocket (url : Url) : Except String Unit :=
  if !url.isSecure then .error s!"RPC error: insecure URL: {url.fullText}"
  else if url.scheme = "ws".toList || url.scheme = "wss".toList then .ok ()
  else .error <| "RPC error: client error: Invalid URL: "
    ++ s!"`{String.ofList url.scheme}` not supported, expects 'ws' or 'wss'"

def standard [Url.Domains] : Libraries where
  readArtifact := Artifact.read
  checkManifest := requireManifestName
  allowUrl := requireSocket

end Libraries

end Preflight
