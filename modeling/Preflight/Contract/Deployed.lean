import Preflight.Client
import Preflight.Contract.Address
import Preflight.Contract.Libraries
import Preflight.Contract.Transfer
import Preflight.Key.Pair
import Preflight.Url

/-!
A deployed contract that is called through a node. The signer, the address and the value are checked
when it is made. Before a call reaches the node, the call is set up: the artifact or the manifest
has to be there, and the URL of the node has to be one that a connection may be opened to.
-/

namespace Preflight

open Files (Path Tree)

/-! ## 1. Deployments -/

/-- What is told about a deployed contract, before any of it is checked. -/
structure Deployment where
  -- an artifact of the contract, or the directory of its project
  path : Path
  address : String
  -- the name that the contract is shown under, if it is not taken from the path
  name : Option String := none
  -- where the node is
  url : Url
  -- the secret URI of the account that calls
  suri : String
  -- the balance that goes with every call
  value : String

namespace Deployment

def standardUrl : Url where
  scheme := "ws".toList
  host := some (.domain "localhost".toList)
  portNumber := some 9944
  path := ['/']

def standardSuri : String := "//Alice"

def standardValue : String := "0"

/-- The name of an artifact without its extension, or the whole name of a directory. A path that
leads nowhere is an artifact if it looks like a bundle. -/
def nameOf (tree : Tree) (path : Path) : String :=
  let isArtifact := tree.isFile path
    || (!tree.isThere path && path.extension == some (Path.ofString "contract"))
  match (if isArtifact then path.stem else path.fileName) with
  | some name => name.shown
  | none => "contract"

end Deployment

/-! ## 2. Deployed contracts -/

/-- A deployed contract with everything that a call of it needs. -/
structure Deployed where
  path : Path
  name : String
  address : Address
  url : Url
  signer : Key.Pair
  value : Transfer

namespace Deployed

/-- Checks a deployment: first the signer, then the address, then the value. -/
def ofDeployment (tree : Tree) (d : Deployment) : Except Fault Deployed := do
  let signer ← Key.Pair.ofUri d.suri
  let address ← Address.parse d.address
  let value ← Transfer.parse d.value
  return { path := d.path, name := d.name.getD (Deployment.nameOf tree d.path), address
           url := d.url, signer, value }

end Deployed

/-! ## 3. Setting up -/

/-- What the code of a contract is taken from. -/
inductive Source where
  | artifact (path : Path)
  -- the names from the root down that lead to the manifest of a project
  | manifest (names : List Path)
  deriving DecidableEq, Repr

/-- A call that has been set up, with all that the node is told about it. -/
structure Prepared where
  contract : Deployed
  source : Source
  call : Call
  -- the gas that the call may use, if it is more than a simulation
  gasLimit : Option GasLimit

namespace Deployed

-- what stands at a path: an artifact if it is a file, and otherwise the directory of a project
def locate (lib : Libraries) (tree : Tree) (path : Path) : Except Fault Source :=
  if tree.isFile path then
    match lib.readArtifact tree path with
    | .ok artifact => .ok (.artifact artifact)
    | .error detail => .error (.setUp detail)
  else (lib.manifest tree path).map .manifest

/-- Sets a call up, as far as this goes before a connection to the node is opened. -/
def setUp (lib : Libraries) (tree : Tree) (c : Deployed) (call : Call)
    (gasLimit : Option GasLimit) : Except Fault Prepared := do
  let source ← locate lib tree c.path
  (lib.allowUrl c.url).mapError Fault.setUp
  return { contract := c, source, call, gasLimit }

-- all paths that are looked at for a contract at a path
def paths (path : Path) : List Path := [path, Artifact.besideBinary path, manifestPath path]

/-! ## 4. Nodes -/

/-- The libraries that calls are set up with, and what a node does with calls that are. -/
structure Node (World Handle : Type) where
  libraries : Libraries
  query : Prepared → World → Except Fault DryRun × World
  submit : Prepared → CallOptions → World → Except Fault Handle × World
  watch : Watch (Handle × World)
  -- the text that something sent is known by
  receipt : Handle → String

def Node.unreachable [Url.Domains] : Node Unit Unit where
  libraries := .standard
  query _ w := (.error (.setUp "RPC error: the node cannot be reached"), w)
  submit _ _ w := (.error (.setUp "RPC error: the node cannot be reached"), w)
  watch s _ := (⟨.ok false, 0⟩, s)
  receipt _ := ""

/-- The client that calls a contract through a node, after setting each call up. -/
def client {World Handle : Type} (c : Deployed) (tree : Tree) (node : Node World Handle) :
    Client World Handle where
  name := c.name
  query call w :=
    match c.setUp node.libraries tree call none with
    | .ok prepared => node.query prepared w
    | .error fault => (.error fault, w)
  submit call options w :=
    match c.setUp node.libraries tree call (some options.gasLimit) with
    | .ok prepared => node.submit prepared options w
    | .error fault => (.error fault, w)
  watch := node.watch

end Deployed

end Preflight
