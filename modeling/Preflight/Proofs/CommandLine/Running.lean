import Preflight.CommandLine.Program
import Preflight.Proofs.CommandLine.Written

/-!
Running a command line: which words name a command and its options, and how the report of a command
that was read becomes the end of the run.
-/

namespace Preflight.CommandLine

/-! ## 1. Names of commands -/

/-- The words that name a command. -/
def Name.spellings : Name → List String
  | percent => ["percent", "p"]
  | gasLimit => ["gas-limit", "g"]
  | decode => ["decode", "d"]
  | send => ["send", "s"]

theorem Name.ofText?_eq_some_iff {name : Name} {word : String} :
    Name.ofText? word = some name ↔ word ∈ name.spellings := by
  constructor
  · intro h
    unfold Name.ofText? at h
    split at h <;> cases h <;> simp [spellings]
  · have hall : ∀ word ∈ name.spellings, Name.ofText? word = some name := by
      cases name <;> decide
    exact hall word

theorem Name.ofRaw?_eq_some_iff {name : Name} {raw : Raw} :
    Name.ofRaw? raw = some name ↔ ∃ word ∈ name.spellings, raw = Text.Utf8.bytes word := by
  constructor
  · intro h
    rw [Name.ofRaw?] at h
    split at h
    · next cs hcs =>
      rw [Text.Utf8.decode_eq_ok_iff] at hcs
      refine ⟨String.ofList cs, Name.ofText?_eq_some_iff.mp h, ?_⟩
      rw [hcs, Text.Utf8.bytes, String.toList_ofList]
    · cases h
  · rintro ⟨word, hword, rfl⟩
    rw [Name.ofRaw?, Text.Utf8.bytes, Text.Utf8.decode_eq_ok_iff.mpr rfl]
    dsimp only
    rw [String.ofList_toList]
    exact Name.ofText?_eq_some_iff.mpr hword

theorem Command.read_of_name [Url.Domains] {name : Name} {word : String} (h : word ∈ name.spellings)
    (rest : List Raw) :
    Command.read (Text.Utf8.bytes word :: rest) = (name.form.read rest).bind name.command := by
  rw [Command.read, Name.ofRaw?_eq_some_iff.mpr ⟨word, h, rfl⟩]
  rfl

/-! ## 2. Names of options -/

/-- No two options of a command have the same name. -/
theorem Name.hasOption (name : Name) {p : Parameter} (h : p ∈ name.form.options) :
    name.form.HasOption p := by
  have hall : ∀ p ∈ name.form.options, Text.Utf8.bytes p.name ≠ [] ∧
      Word.equals ∉ Text.Utf8.bytes p.name ∧
      name.form.named (Text.Utf8.bytes p.name) = some p := by
    cases name <;> decide
  obtain ⟨hnil, hequals, hnamed⟩ := hall p h
  exact ⟨⟨hnil, hequals⟩, hnamed⟩

/-- No two options of a command have the same letter. -/
theorem Name.hasLetter (name : Name) {p : Parameter} {c : Char} (h : p ∈ name.form.options)
    (hc : p.letter = some c) : name.form.HasLetter p c := by
  have hall : ∀ p ∈ name.form.options, (p.letter.all fun c =>
      (String.utf8EncodeChar c).head? != some Word.hyphen && name.form.lettered c == some p) =
        true := by
    cases name <;> decide
  have hp := hall p h
  rw [hc, Option.all_some, Bool.and_eq_true, bne_iff_ne, beq_iff_eq] at hp
  exact ⟨hp.1, hp.2⟩

/-! ## 3. How runs end -/

/-- How a run ends that reports this, with the filter and the warnings that the environment asks
for. -/
def Report.exitIn (env : Environment.Variables) (r : Report) : Exit :=
  let e := r.exit (logFilter env).1
  { e with stderr := unlines ((logFilter env).2.map warningText) ++ e.stderr }

theorem run_of_read [Url.Domains] {World Handle : Type} (node : Deployed.Node World Handle)
    (world : World) (checks : Nat) (env : Environment.Variables) (tree : Files.Tree) {words : List Raw}
    {command : Command} (h : Command.read words = .ok command) :
    run node world checks env tree words =
      (command.run node world checks env tree).map (Report.exitIn env) := by
  rw [run, h]
  rfl

end Preflight.CommandLine
