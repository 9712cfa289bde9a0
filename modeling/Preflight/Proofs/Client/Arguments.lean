import Preflight.Proofs.Json.Strings
import Preflight.Rehearsal.Contract

/-!
What the messages about a call tell of its arguments. The refusal of a call lists all of them and
the line about its success all but the last one, as JSON that is read in one way only. So nothing
that is in an argument can be taken for a part of the list or of the message around it.
-/

namespace Preflight.Call

/-! ## 1. Lists of arguments -/

/-- The arguments as a JSON array of strings. -/
def listed (args : List String) : Json.Value :=
  .array (args.map fun arg => .text arg.toList)

/-- The text is JSON for the arguments and for nothing else, on one line and without white space
between the arguments. -/
structure Lists (text : String) (args : List String) : Prop where
  compact : Json.Denotes [] text.toList (listed args)
  only : ∀ v, Json.Denotes Json.whiteSpace text.toList v ↔ v = listed args
  read : Json.parse? text.toList = some (listed args)
  printable : ∀ c ∈ text.toList, 0x20 ≤ c.toNat

theorem toList_textArray (args : List String) :
    (Json.textArray args).toList = Json.strings (args.map String.toList) :=
  String.toList_ofList

theorem lists_textArray (args : List String) : Lists (Json.textArray args) args := by
  have hlisted : listed args = .array ((args.map String.toList).map .text) := by
    rw [List.map_map]
    rfl
  constructor
  · rw [toList_textArray, hlisted]
    exact Json.denotes_strings [] _
  · intro v
    rw [toList_textArray, hlisted]
    refine ⟨fun h => h.of_strings, ?_⟩
    rintro rfl
    exact Json.denotes_strings Json.whiteSpace _
  · rw [toList_textArray, hlisted]
    exact Json.parse?_strings _
  · rw [toList_textArray]
    exact fun c => Json.le_toNat_of_mem_strings

/-- A text lists one list of arguments only. -/
theorem Lists.unique {text : String} {args args' : List String} (h : Lists text args)
    (h' : Lists text args') : args = args' := by
  have hvalue : listed args = listed args' := (h'.only _).mp ((h.only _).mpr rfl)
  have htexts : ∀ {a b : String}, Json.Value.text a.toList = .text b.toList → a = b :=
    fun hab => String.toList_inj.mp (Json.Value.text.inj hab)
  exact List.map_injective_iff.mpr (fun _ _ => htexts) (Json.Value.array.inj hvalue)

theorem textArray_inj {a b : List String} : Json.textArray a = Json.textArray b ↔ a = b := by
  refine ⟨fun h => ?_, fun h => by rw [h]⟩
  exact (h ▸ lists_textArray a).unique (lists_textArray b)

/-! ## 2. Messages -/

/-- Every fault of a preview is a refusal, and its arguments are those of the call. -/
theorem exists_reason_of_preview {World Handle : Type} {client : Client World Handle} {call : Call}
    {world : World} {fault : Fault} (h : (client.preview call world).result = .error fault) :
    ∃ reason, fault = .refused (client.refusal call reason) := by
  change (client.judge call (client.query call world).1).1 = .error fault at h
  generalize (client.query call world).1 = answer at h
  cases answer with
  | error simulation =>
    cases h
    exact ⟨_, rfl⟩
  | ok outcome =>
    rw [Client.judge] at h
    cases hpayload : outcome.errorPayload with
    | none =>
      rw [hpayload] at h
      exact nomatch h
    | some reason =>
      rw [hpayload] at h
      cases h
      exact ⟨_, rfl⟩

theorem message_refused (r : Refusal) :
    (Fault.refused r).message = "Pre-submission dry-run of " ++ r.contract ++ "." ++ r.method ++
      "(" ++ r.args ++ ") failed: " ++ r.reason :=
  rfl

/-- The control characters in the message of a refusal come from its other parts. -/
theorem mem_of_control {r : Refusal} {args : List String} {c : Char} (hargs : Lists r.args args)
    (hc : c ∈ (Fault.refused r).message.toList) (hcontrol : c.toNat < 0x20) :
    c ∈ r.contract.toList ∨ c ∈ r.method.toList ∨ c ∈ r.reason.toList := by
  have hnot : ∀ {cs : List Char}, (∀ d ∈ cs, 0x20 ≤ d.toNat) → c ∉ cs :=
    fun hcs hmem => Nat.not_lt.mpr (hcs c hmem) hcontrol
  rw [message_refused] at hc
  simp only [String.toList_append, List.mem_append] at hc
  rcases hc with ((((((hc | hc) | hc) | hc) | hc) | hc) | hc) | hc
  · exact absurd hc (hnot (by simp))
  · exact .inl hc
  · exact absurd hc (hnot (by simp))
  · exact .inr (.inl hc)
  · exact absurd hc (hnot (by simp))
  · exact absurd hc (hnot hargs.printable)
  · exact absurd hc (hnot (by simp))
  · exact .inr (.inr hc)

theorem successMessage_eq (contract : String) (call : Call) :
    call.successMessage contract = "Transaction succeeded: " ++ contract ++ "." ++ call.method ++
      "(" ++ Json.textArray call.args.dropLast ++ ")" :=
  rfl

/-- The line about a success shows all arguments but the last one. -/
theorem successMessage_inj {contract method : String} {a b : List String} :
    successMessage contract ⟨method, a⟩ = successMessage contract ⟨method, b⟩ ↔
      a.dropLast = b.dropLast := by
  rw [successMessage_eq, successMessage_eq, ← textArray_inj, String.append_left_inj,
    String.append_right_inj]

/-! ## 3. What is shown and what is hidden -/

/-- A preview that fails fails with a refusal, which lists the arguments of the call: its text is
JSON for them and for nothing else. The message has no control characters that are not in the name
of the contract, in the method or in the reason. Two refusals have the same text of arguments exactly
if the calls have the same arguments. The lines about the success of two calls of one message are
the same exactly if the arguments are the same up to the last one of each. -/
theorem arguments_listed :
    (∀ {World Handle : Type} (client : Client World Handle) (call : Call) (world : World)
        (fault : Fault), (client.preview call world).result = .error fault →
      ∃ r, fault = .refused r ∧ Lists r.args call.args ∧
        ∀ c ∈ fault.message.toList, c.toNat < 0x20 →
          c ∈ client.name.toList ∨ c ∈ call.method.toList ∨ c ∈ r.reason.toList) ∧
    (∀ {World Handle World' Handle' : Type} (client : Client World Handle) (call : Call)
        (world : World) (r : Refusal) (client' : Client World' Handle') (call' : Call)
        (world' : World') (r' : Refusal),
      (client.preview call world).result = .error (.refused r) →
      (client'.preview call' world').result = .error (.refused r') →
      (r.args = r'.args ↔ call.args = call'.args)) ∧
    ∀ (contract method : String) (a b : List String),
      successMessage contract ⟨method, a⟩ = successMessage contract ⟨method, b⟩ ↔
        a.dropLast = b.dropLast := by
  refine ⟨?_, ?_, fun _ _ _ _ => successMessage_inj⟩
  · intro World Handle client call world fault h
    obtain ⟨reason, rfl⟩ := exists_reason_of_preview h
    have hlists : Lists (client.refusal call reason).args call.args := lists_textArray call.args
    exact ⟨_, rfl, hlists, fun c => mem_of_control hlists⟩
  · intro World Handle World' Handle' client call world r client' call' world' r' h h'
    obtain ⟨reason, hr⟩ := exists_reason_of_preview h
    obtain ⟨reason', hr'⟩ := exists_reason_of_preview h'
    cases hr
    cases hr'
    exact textArray_inj

/-- A contract that refuses every call, for a reason on two lines. -/
def closedPool : Rehearsal.Contract where
  name := "pool"
  dryRun := .failure "Closed\nfor good"

/-- An argument that looks like the border between two others, and one with a line break. -/
theorem arguments_listed_closedPool :
    let call : Call := ⟨"mint", ["\",\"", "a\n\\"]⟩
    let other : Call := ⟨"mint", ["", "", "a\n\\"]⟩
    let r : Refusal := ⟨"pool", "mint", call.argsText, "Closed\nfor good"⟩
    let r' : Refusal := ⟨"pool", "mint", other.argsText, "Closed\nfor good"⟩
    r.args = "[\"\\\",\\\"\",\"a\\n\\\\\"]" ∧ r'.args = "[\"\",\"\",\"a\\n\\\\\"]" ∧
    (closedPool.client.preview call {}).result = .error (.refused r) ∧ Lists r.args call.args ∧
    (closedPool.client.preview other {}).result = .error (.refused r') ∧ r.args ≠ r'.args ∧
    successMessage "pool" call ≠ successMessage "pool" other ∧
    successMessage "pool" call = successMessage "pool" ⟨"mint", ["\",\"", "b"]⟩ := by
  intro call other r r'
  obtain ⟨hrefused, htwo, hline⟩ := arguments_listed
  have hcall : (closedPool.client.preview call {}).result = .error (.refused r) := rfl
  have hother : (closedPool.client.preview other {}).result = .error (.refused r') := rfl
  refine ⟨by decide +kernel, by decide +kernel, hcall, ?_, hother, ?_, ?_, ?_⟩
  · obtain ⟨_, heq, hlists, -⟩ := hrefused closedPool.client call {} _ hcall
    cases heq
    exact hlists
  · have hargs := htwo closedPool.client call {} r closedPool.client other {} r' hcall hother
    exact fun h => absurd (hargs.mp h) (by decide)
  · exact fun h => absurd ((hline "pool" "mint" call.args other.args).mp h) (by decide)
  · exact (hline "pool" "mint" call.args ["\",\"", "b"]).mpr (by decide)

end Preflight.Call
