import Preflight.Contract.Deployed
import Preflight.Proofs.Client.Effects
import Preflight.Proofs.Steps

/-!
Calls of a deployed contract that cannot be set up. What stands in the way is an artifact that cannot
be read, a project without a manifest, or a URL that is refused. It lies with the path, the files and
the URL, so every call meets it alike, and simulating and sending report it in the same words. What
makes an artifact unreadable, and which URLs are refused, is left to the libraries; the standard ones
are described first.
-/

namespace Preflight

open Files (Path Tree)

/-! ## 1. Artifacts of the standard libraries -/

namespace Artifact

theorem kindOf_eq_error {cs : List Char}
    (h : String.ofList cs ∉ ["contract", "json", "polkavm"]) :
    kindOf (some cs) = .error
      s!"Invalid artifact extension {String.ofList cs}, expected `.contract`, `.json` or `.polkavm`"
    := by
  simp only [List.mem_cons, List.not_mem_nil, or_false, not_or] at h
  rw [kindOf]
  split
  case h_1 hext => exact absurd hext h.1
  case h_2 hext => exact absurd hext h.2.1
  case h_3 hext => exact absurd hext h.2.2
  case h_4 => rfl

theorem kindOf_bundle : kindOf (some "contract".toList) = .ok .metadata := by
  rw [kindOf, String.ofList_toList]
  rfl

theorem kindOf_plain : kindOf (some "json".toList) = .ok .metadata := by
  rw [kindOf, String.ofList_toList]
  rfl

variable [Url.Domains]

/-- The file that the metadata of an artifact is read from: a bundle and plain metadata hold it
themselves, and a binary that can be read has it in a file beside it, if that is there. -/
inductive IsMetadata (tree : Tree) (path : Path) : Path → Prop
  | bundle (h : extensionText path = some "contract".toList) : IsMetadata tree path path
  | plain (h : extensionText path = some "json".toList) : IsMetadata tree path path
  | beside (h : extensionText path = some "polkavm".toList) {code : List UInt8}
      (hcode : tree.readBytes path = .ok code) (hthere : tree.isThere (besideBinary path) = true) :
    IsMetadata tree path (besideBinary path)

/-- A file can be opened, but what is in it is no metadata, or it cannot be read at all. -/
inductive IsMalformed (tree : Tree) (file : Path) : Prop
  | directory (h : tree.readBytes file = .error .isADirectory)
  | content {bytes : List UInt8} (h : tree.readBytes file = .ok bytes)
      (hbad : Metadata.isMetadataFile bytes = false)

/-- What is wrong with a file that a contract is called with. -/
inductive Flaw (tree : Tree) (path : Path) : String → Prop
  | noExtension (h : extensionText path = none) : Flaw tree path
      "Artifact path has no extension, expected `.contract`, `.json`, or `.polkavm`"
  | otherExtension {cs : List Char} (h : extensionText path = some cs)
      (hother : String.ofList cs ∉ ["contract", "json", "polkavm"]) : Flaw tree path
      s!"Invalid artifact extension {String.ofList cs}, expected `.contract`, `.json` or `.polkavm`"
  | binary (h : extensionText path = some "polkavm".toList) {e : Files.Fault}
      (hcode : tree.readBytes path = .error e) : Flaw tree path e.message
  | unopened {file : Path} (h : IsMetadata tree path file) {e : Files.Fault}
      (hopen : tree.readBytes file = .error e) (he : e ≠ .isADirectory) :
    Flaw tree path s!"Failed to open metadata file {file.shown}"
  | malformed {file : Path} (h : IsMetadata tree path file) (hbad : IsMalformed tree file) :
    Flaw tree path s!"Failed to deserialize metadata file {file.shown}"

variable {tree : Tree} {path file : Path} {detail : String}

theorem checkMetadata_of_unopened {e : Files.Fault} (hopen : tree.readBytes file = .error e)
    (he : e ≠ .isADirectory) :
    checkMetadata tree file = .error s!"Failed to open metadata file {file.shown}" := by
  rw [checkMetadata, hopen]
  cases e <;> first | rfl | exact absurd rfl he

theorem checkMetadata_of_malformed (h : IsMalformed tree file) :
    checkMetadata tree file = .error s!"Failed to deserialize metadata file {file.shown}" := by
  rw [checkMetadata]
  cases h with
  | directory h => rw [h]
  | content h hbad =>
    rw [h]
    dsimp only
    rw [if_neg (Bool.eq_false_iff.mp hbad)]

theorem checkMetadata_cases (h : checkMetadata tree file = .error detail) :
    (∃ e, tree.readBytes file = .error e ∧ e ≠ .isADirectory ∧
      detail = s!"Failed to open metadata file {file.shown}") ∨
    IsMalformed tree file ∧ detail = s!"Failed to deserialize metadata file {file.shown}" := by
  cases hread : tree.readBytes file with
  | error e =>
    by_cases he : e = .isADirectory
    · subst he
      rw [checkMetadata_of_malformed (.directory hread)] at h
      exact .inr ⟨.directory hread, (Except.error.inj h).symm⟩
    · rw [checkMetadata_of_unopened hread he] at h
      exact .inl ⟨e, rfl, he, (Except.error.inj h).symm⟩
  | ok content =>
    by_cases hgood : Metadata.isMetadataFile content = true
    · rw [checkMetadata, hread] at h
      dsimp only at h
      rw [if_pos hgood] at h
      cases h
    · have hbad := IsMalformed.content hread (Bool.eq_false_iff.mpr hgood)
      rw [checkMetadata_of_malformed hbad] at h
      exact .inr ⟨hbad, (Except.error.inj h).symm⟩

/-- The metadata of an artifact is refused for one of the flaws. -/
theorem flaw_of_checkMetadata (hfile : IsMetadata tree path file)
    (h : checkMetadata tree file = .error detail) : Flaw tree path detail := by
  rcases checkMetadata_cases h with ⟨e, hopen, he, rfl⟩ | ⟨hbad, rfl⟩
  · exact .unopened hfile hopen he
  · exact .malformed hfile hbad

theorem read_of_metadata {extension : String} (h : extensionText path = some extension.toList)
    (hkind : kindOf (some extension.toList) = .ok .metadata) :
    read tree path = (checkMetadata tree path).map fun _ => path := by
  rw [read, h, hkind]
  rfl

theorem read_of_binary (h : extensionText path = some "polkavm".toList) :
    read tree path = (checkBinary tree path).map fun _ => path := by
  rw [read, h, kindOf, String.ofList_toList]
  rfl

theorem flaw_of_checkBinary (hext : extensionText path = some "polkavm".toList)
    (h : checkBinary tree path = .error detail) : Flaw tree path detail := by
  rw [checkBinary] at h
  cases hcode : tree.readBytes path with
  | error e =>
    rw [hcode] at h
    cases h
    exact .binary hext hcode
  | ok code =>
    rw [hcode] at h
    dsimp only at h
    by_cases hthere : tree.isThere (besideBinary path) = true
    · rw [if_pos hthere] at h
      exact flaw_of_checkMetadata (.beside hext hcode hthere) h
    · rw [if_neg hthere] at h
      cases h

theorem flaw_of_read (h : read tree path = .error detail) : Flaw tree path detail := by
  cases hext : extensionText path with
  | none =>
    rw [read, hext] at h
    cases h
    exact .noExtension hext
  | some cs =>
    by_cases hother : String.ofList cs ∉ ["contract", "json", "polkavm"]
    · rw [read, hext, kindOf_eq_error hother] at h
      cases h
      exact .otherExtension hext hother
    obtain ⟨extension, rfl⟩ : ∃ extension : String, cs = extension.toList :=
      ⟨String.ofList cs, String.toList_ofList.symm⟩
    rw [String.ofList_toList, not_not] at hother
    simp only [List.mem_cons, List.not_mem_nil, or_false] at hother
    rcases hother with rfl | rfl | rfl
    · rw [read_of_metadata hext kindOf_bundle, map_eq_error_iff] at h
      exact flaw_of_checkMetadata (.bundle hext) h
    · rw [read_of_metadata hext kindOf_plain, map_eq_error_iff] at h
      exact flaw_of_checkMetadata (.plain hext) h
    · rw [read_of_binary hext, map_eq_error_iff] at h
      exact flaw_of_checkBinary hext h

/-- The metadata decides about an artifact, if it has any. -/
theorem IsMetadata.read_eq_error (h : IsMetadata tree path file)
    (hcheck : checkMetadata tree file = .error detail) : read tree path = .error detail := by
  cases h with
  | bundle h => rw [read_of_metadata h kindOf_bundle, hcheck, Except.map]
  | plain h => rw [read_of_metadata h kindOf_plain, hcheck, Except.map]
  | beside h hcode hthere =>
    rw [read_of_binary h, checkBinary, hcode]
    dsimp only
    rw [if_pos hthere, hcheck, Except.map]

theorem Flaw.read_eq_error (h : Flaw tree path detail) : read tree path = .error detail := by
  cases h with
  | noExtension h =>
    rw [read, h]
    rfl
  | otherExtension h hother =>
    rw [read, h, kindOf_eq_error hother]
    rfl
  | binary h hcode =>
    rw [read_of_binary h, checkBinary, hcode]
    rfl
  | unopened h hopen he => exact h.read_eq_error (checkMetadata_of_unopened hopen he)
  | malformed h hbad => exact h.read_eq_error (checkMetadata_of_malformed hbad)

/-- An artifact is refused for a flaw that it has, and for each of them. -/
theorem read_eq_error_iff : read tree path = .error detail ↔ Flaw tree path detail :=
  ⟨flaw_of_read, Flaw.read_eq_error⟩

end Artifact

/-! ## 2. Obstacles -/

namespace Deployed

/-- What keeps a call of a contract at a path, through a node at a URL, from being set up. -/
inductive Obstacle (lib : Libraries) (tree : Tree) (path : Path) (url : Url) : Fault → Prop
  | artifact {detail : String} (hfile : tree.isFile path = true)
      (h : lib.readArtifact tree path = .error detail) : Obstacle lib tree path url (.setUp detail)
  -- a path that leads to no file is the directory of a project
  | noManifest {e : Files.Fault} (hfile : tree.isFile path = false)
      (h : tree.locate (manifestPath path) = .error e) :
    Obstacle lib tree path url (.file e.message)
  | manifest {names : List Path} {detail : String} (hfile : tree.isFile path = false)
      (hnames : tree.locate (manifestPath path) = .ok names)
      (h : lib.checkManifest names = .error detail) :
    Obstacle lib tree path url (.config s!"Failed to get manifest path: {detail}")
  | url {source : Source} {detail : String} (hlocated : locate lib tree path = .ok source)
      (h : lib.allowUrl url = .error detail) : Obstacle lib tree path url (.setUp detail)

section SetUp

variable {lib : Libraries} {tree : Tree} {path : Path} {url : Url} {c : Deployed} {call : Call}
  {gasLimit : Option GasLimit} {fault : Fault}

theorem obstacle_of_locate (h : locate lib tree path = .error fault) :
    Obstacle lib tree path url fault := by
  unfold locate at h
  by_cases hfile : tree.isFile path = true
  · rw [if_pos hfile] at h
    cases hread : lib.readArtifact tree path with
    | ok artifact =>
      rw [hread] at h
      cases h
    | error detail =>
      rw [hread] at h
      cases h
      exact .artifact hfile hread
  · rw [if_neg hfile, Libraries.manifest] at h
    rw [Bool.not_eq_true] at hfile
    cases hnames : tree.locate (manifestPath path) with
    | error e =>
      rw [hnames] at h
      cases h
      exact .noManifest hfile hnames
    | ok names =>
      rw [hnames] at h
      dsimp only at h
      cases hcheck : lib.checkManifest names with
      | ok _ =>
        rw [hcheck] at h
        cases h
      | error detail =>
        rw [hcheck] at h
        cases h
        exact .manifest hfile hnames hcheck

theorem setUp_of_locate_error (h : locate lib tree c.path = .error fault) :
    c.setUp lib tree call gasLimit = .error fault := by
  rw [setUp, h]
  rfl

theorem setUp_of_locate_ok {source : Source} (h : locate lib tree c.path = .ok source) :
    c.setUp lib tree call gasLimit =
      match lib.allowUrl c.url with
      | .ok () => .ok { contract := c, source, call, gasLimit }
      | .error detail => .error (.setUp detail) := by
  rw [setUp, h]
  show ((lib.allowUrl c.url).mapError Fault.setUp >>= _) = _
  cases lib.allowUrl c.url with
  | ok _ => rfl
  | error detail => rfl

theorem Obstacle.setUp_eq_error (h : Obstacle lib tree c.path c.url fault) :
    c.setUp lib tree call gasLimit = .error fault := by
  cases h with
  | artifact hfile h =>
    apply setUp_of_locate_error
    rw [locate, if_pos hfile, h]
  | noManifest hfile h =>
    apply setUp_of_locate_error
    rw [locate, if_neg (Bool.eq_false_iff.mp hfile), Libraries.manifest, h]
    rfl
  | manifest hfile hnames h =>
    apply setUp_of_locate_error
    rw [locate, if_neg (Bool.eq_false_iff.mp hfile), Libraries.manifest, hnames]
    dsimp only
    rw [h]
    rfl
  | url hlocated h => rw [setUp_of_locate_ok hlocated, h]

/-- A call cannot be set up exactly if there is an obstacle, which the fault tells. -/
theorem setUp_eq_error_iff :
    c.setUp lib tree call gasLimit = .error fault ↔ Obstacle lib tree c.path c.url fault := by
  constructor
  · intro h
    cases hlocated : locate lib tree c.path with
    | error fault' =>
      rw [setUp_of_locate_error hlocated] at h
      cases h
      exact obstacle_of_locate hlocated
    | ok source =>
      rw [setUp_of_locate_ok hlocated] at h
      cases hallowed : lib.allowUrl c.url with
      | ok _ =>
        rw [hallowed] at h
        cases h
      | error detail =>
        rw [hallowed] at h
        cases h
        exact .url hlocated hallowed
  · exact Obstacle.setUp_eq_error

end SetUp

/-! ## 3. Calls that meet an obstacle -/

section Calls

variable {World Handle : Type} {node : Node World Handle} {tree : Tree} {c : Deployed}
  {fault : Fault} (h : Obstacle node.libraries tree c.path c.url fault) (call : Call)
  (options : CallOptions) (world : World)

include h

theorem query_of_obstacle :
    (c.client tree node).query call world = (.error fault, world) := by
  simp only [client, h.setUp_eq_error]

theorem submit_of_obstacle :
    (c.client tree node).submit call options world = (.error fault, world) := by
  simp only [client, h.setUp_eq_error]

theorem previewAndSend_of_obstacle (checks : Nat) (config : Config) :
    (c.client tree node).previewAndSend checks call options config world = some
      { result := .error (.refused ⟨c.name, call.method, call.argsText, fault.message⟩)
        time := 0
        trace := [⟨0, .query call⟩, ⟨0, .line ⟨.debug, Log.callTopic,
          s!"Dry-run of {c.name}.{call.method} failed: {fault.message}"⟩⟩]
        world } := by
  have hquery := query_of_obstacle h call world
  have hobjection : Client.objection ((c.client tree node).query call world).1
      = some fault.message := by
    rw [hquery]
    rfl
  rw [Client.previewAndSend,
    (c.client tree node).progress_of_objection checks call options config world hobjection, hquery]
  rfl

end Calls

/-- A call that cannot be set up fails alike whether it is sent directly or simulated first, with any
libraries. The fault tells one of the obstacles, and every other call of every contract at this path
and URL has the same fault, whatever its message, its arguments and its gas limit are. Sent directly,
a call fails with this fault. To simulate and send it, in any configuration, is refused with the
message of this fault as the reason: nothing is sent, nothing is waited for, and the one line that is
logged is for debugging. -/
theorem setUp_failure {World Handle : Type} (node : Node World Handle) {tree : Tree} {c : Deployed}
    {call : Call} {gasLimit : Option GasLimit} {fault : Fault}
    (h : c.setUp node.libraries tree call gasLimit = .error fault) :
    Obstacle node.libraries tree c.path c.url fault ∧
    (∀ (c' : Deployed) (call' : Call) (gasLimit' : Option GasLimit), c'.path = c.path →
      c'.url = c.url → c'.setUp node.libraries tree call' gasLimit' = .error fault) ∧
    ∀ (other : Call) (world : World),
      (∀ options, (c.client tree node).submit other options world = (.error fault, world)) ∧
      ∀ (checks : Nat) (config : Config),
        let refused : Client.Sending World Handle :=
          { result := .error (.refused ⟨c.name, other.method, other.argsText, fault.message⟩)
            time := 0
            trace := [⟨0, .query other⟩, ⟨0, .line ⟨.debug, "pop_tx::contract",
              s!"Dry-run of {c.name}.{other.method} failed: {fault.message}"⟩⟩]
            world }
        (∀ options,
          (c.client tree node).previewAndSend checks other options config world = some refused) ∧
        (c.client tree node).previewAndSendWithDefaults checks other config world = some refused := by
  have hobstacle := setUp_eq_error_iff.mp h
  refine ⟨hobstacle, ?_, ?_⟩
  · intro c' call' gasLimit' hpath hurl
    apply Obstacle.setUp_eq_error
    rw [hpath, hurl]
    exact hobstacle
  · intro other world
    refine ⟨fun options => submit_of_obstacle hobstacle other options world, ?_⟩
    intro checks config refused
    exact ⟨fun options => previewAndSend_of_obstacle hobstacle other options world checks config,
      previewAndSend_of_obstacle hobstacle other .standard world checks config⟩

/-- A contract in a directory that is not there. -/
def controller : Deployed where
  path := Path.ofString "controller"
  name := "controller"
  address := ⟨List.replicate 20 0, rfl⟩
  url := Deployment.standardUrl
  signer := .ofSecret 1
  value := .units ⟨0, by decide⟩

/-- A bundle that must not be read. -/
def closedTree : Tree := ⟨[], [([Path.ofString "pool.contract"], .closedFile)]⟩

/-- No manifest is found for one contract, and the bundle of another must not be read. -/
theorem setUp_failure_controller :
    letI : Url.Domains := .plain
    let node := Node.unreachable
    let absent : Fault := .file "No such file or directory (os error 2)"
    let closed : Deployed := { controller with path := Path.ofString "pool.contract" }
    let denied : Fault := .setUp "Failed to open metadata file pool.contract"
    controller.setUp .standard closedTree ⟨"mint", []⟩ none = .error absent ∧
    (controller.client closedTree node).submit ⟨"burn", []⟩ .standard () = (.error absent, ()) ∧
    closed.setUp .standard closedTree ⟨"mint", []⟩ none = .error denied ∧
    closed.setUp .standard closedTree ⟨"burn", ["1"]⟩ (some (.build none none)) = .error denied ∧
    ((closed.client closedTree node).previewAndSendWithDefaults 0 ⟨"mint", ["1", "2"]⟩
      .standard ()).map Client.Sending.result = some (.error (.refused ⟨"controller", "mint",
        "[\"1\",\"2\"]", "Anyhow error: Failed to open metadata file pool.contract"⟩)) := by
  let _ : Url.Domains := .plain
  intro node absent closed denied
  have habsent : controller.setUp node.libraries closedTree ⟨"mint", []⟩ none = .error absent := by
    have hshown : controller.path.shown = "controller" := by
      decide +kernel
    have hlocated : closedTree.locate (manifestPath controller.path) = .error .notFound := by
      rw [manifestPath, hshown]
      rfl
    exact setUp_eq_error_iff.mpr (.noManifest rfl hlocated)
  have hdenied : closed.setUp node.libraries closedTree ⟨"mint", []⟩ none = .error denied := by
    have hextension : Artifact.extensionText closed.path = some "contract".toList := by
      decide +kernel
    have hshown : closed.path.shown = "pool.contract" := by
      decide +kernel
    have hflaw : Artifact.Flaw closedTree closed.path
        s!"Failed to open metadata file {closed.path.shown}" :=
      .unopened (.bundle hextension) (e := .denied) rfl (by decide)
    rw [hshown] at hflaw
    exact setUp_eq_error_iff.mpr (.artifact rfl (Artifact.read_eq_error_iff.mpr hflaw))
  obtain ⟨-, -, hcalls⟩ := setUp_failure node habsent
  obtain ⟨-, hsame, hrefused⟩ := setUp_failure node hdenied
  refine ⟨habsent, (hcalls ⟨"burn", []⟩ ()).1 .standard, hdenied,
    hsame closed ⟨"burn", ["1"]⟩ (some (.build none none)) rfl rfl, ?_⟩
  have hargs : Call.argsText ⟨"mint", ["1", "2"]⟩ = "[\"1\",\"2\"]" := by
    decide +kernel
  rw [((hrefused ⟨"mint", ["1", "2"]⟩ ()).2 0 .standard).2, hargs]
  rfl

end Deployed

end Preflight
