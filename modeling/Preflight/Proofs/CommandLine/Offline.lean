import Preflight.Proofs.Balance.Percentage
import Preflight.Proofs.CommandLine.Running
import Preflight.Proofs.HexText.RoundTrip
import Preflight.Proofs.Numeral.Unsigned

/-!
The commands that need no node, from the words of the command line to the text that is printed. A
percentage is printed if it is a balance, a hexadecimal text is printed as the text that it encodes,
and the limits of calls are printed with the parts that were given in the place of their defaults.
Everything else ends with a fault, and an argument that is not even text is a misuse.
-/

namespace Preflight.CommandLine

open Numeral (IsNumeral)
open Text.Hex (IsFramed Denotes)

/-! ## 1. Numbers on the command line -/

/-- Words that give an option a number in decimal, as a word of its own or joined to the name; or no
words, which do not give it at all. -/
inductive Sets (name : String) : Option Nat → List Raw → Prop
  | absent : Sets name none []
  | apart {cs : List Char} {n : Nat} (h : IsNumeral cs n) :
    Sets name (some n) [dashed name, Text.Utf8.encode cs]
  | joined {cs : List Char} {n : Nat} (h : IsNumeral cs n) :
    Sets name (some n) [joined name (Text.Utf8.encode cs)]

theorem head?_encode_of_ascii {c : Char} (hc : c.toNat < 0x80) (cs : List Char) :
    (Text.Utf8.encode (c :: cs)).head? = some (UInt8.ofNat c.toNat) := by
  rw [Text.Utf8.encode_cons, Text.Hex.encode_digit hc]
  rfl

theorem toNat_of_isDigit {c : Char} (h : c.isDigit = true) : 48 ≤ c.toNat ∧ c.toNat ≤ 57 :=
  Char.isDigit_iff_toNat.mp h

-- A numeral starts with a digit or a plus sign, so it is not taken for an option.
theorem ofRaw_numeral {cs : List Char} {n : Nat} (h : IsNumeral cs n) :
    Word.ofRaw (Text.Utf8.encode cs) = .plain := by
  apply Word.ofRaw_eq_plain
  rcases h with ⟨ds, rfl | rfl, hnil, hdigits, -⟩
  · obtain ⟨d, ds, rfl⟩ := List.exists_cons_of_ne_nil hnil
    have hd := toNat_of_isDigit (hdigits d List.mem_cons_self)
    rw [head?_encode_of_ascii (by omega)]
    intro hhyphen
    have hcode := congrArg UInt8.toNat (Option.some.inj hhyphen)
    rw [Text.Utf8.toNat_ofNat (by omega)] at hcode
    have hhyphen : Word.hyphen.toNat = 45 := rfl
    omega
  · rw [head?_encode_of_ascii (by decide)]
    decide

theorem readNumeral_eq_ok {cs : List Char} {b : Balance} (h : IsNumeral cs b.units) :
    Balance.readNumeral cs = .ok b := by
  have hread := Numeral.readUnsigned_eq_ok_iff.mpr ⟨h, b.units_lt⟩
  rw [Balance.readNumeral]
  split
  · next n hn =>
    rw [hread] at hn
    cases hn
    rfl
  · next e he =>
    rw [hread] at he
    cases he

namespace Parameter

theorem read_amount [Url.Domains] {p : Parameter} (hp : p.kind = .amount) {cs : List Char}
    {b : Balance} (h : IsNumeral cs b.units) : p.read (Text.Utf8.encode cs) = .ok (.amount b) := by
  rw [read, hp]
  dsimp only
  rw [textOf_encode]
  dsimp only [bind, Except.bind]
  rw [readNumeral_eq_ok h]
  rfl

theorem read_count [Url.Domains] {p : Parameter} (hp : p.kind = .count) {cs : List Char}
    {n : UInt64} (h : IsNumeral cs n.toNat) : p.read (Text.Utf8.encode cs) = .ok (.count n) := by
  have hread := Numeral.readUnsigned_eq_ok_iff.mpr ⟨h, n.toNat_lt⟩
  rw [read, hp]
  dsimp only
  rw [textOf_encode]
  dsimp only [bind, Except.bind]
  rw [hread]
  dsimp only
  rw [UInt64.ofNat_toNat]
  rfl

end Parameter

theorem Sets.gives [Url.Domains] {f : Form} {p : Parameter} {n : Nat} {v : Value}
    {words : List Raw} (h : Sets p.name (some n) words) (hp : f.HasOption p)
    (hlist : p.isList = false) (hread : ∀ cs, IsNumeral cs n → p.read (Text.Utf8.encode cs) = .ok v) :
    Gives f p v words := by
  cases h with
  | apart h => exact .apart (.name hp) hlist (ofRaw_numeral h) (hread _ h)
  | joined h => exact .joined (.name hp) (hread _ h)

/-- What an option is given, if it is. -/
def optionally {α : Type} (name : String) (value : α → Value) (x : Option α) : Given :=
  (x.map fun a => (name, [value a])).toList

theorem Written.optionally [Url.Domains] {α : Type} {f : Form} {p : Parameter}
    {places : List Parameter} {number : α → Nat} {value : α → Value} {x : Option α}
    {front words : List Raw} {g : Given} (hp : f.HasOption p) (hlist : p.isList = false)
    (h : Sets p.name (x.map number) front)
    (hread : ∀ a cs, IsNumeral cs (number a) → p.read (Text.Utf8.encode cs) = .ok (value a))
    (hrest : Written f places g words) :
    Written f places (CommandLine.optionally p.name value x ++ g) (front ++ words) := by
  cases x with
  | none =>
    cases h
    exact hrest
  | some a => exact .option (h.gives hp hlist (hread a)) hrest

/-! ## 2. How runs end -/

/-- The end of a run that logs nothing, where the environment asks for warnings. -/
def quietExit (env : Environment.Variables) (result : Except Fault String) : Exit :=
  let warnings := unlines ((logFilter env).2.map warningText)
  match result with
  | .ok text => { code := 0, stdout := text ++ "\n", stderr := warnings }
  | .error fault => { code := 1, stderr := warnings ++ faultText fault }

theorem exitIn_quiet (env : Environment.Variables) (result : Except Fault String) :
    Report.exitIn env { result } = quietExit env result := by
  cases result with
  | ok text => simp [Report.exitIn, Report.exit, quietExit, unlines]
  | error fault => simp [Report.exitIn, Report.exit, quietExit, unlines]

section Runs

variable {World Handle : Type} (node : Deployed.Node World Handle) (world : World) (checks : Nat)
  (env : Environment.Variables) (tree : Files.Tree)

theorem run_of_result [Url.Domains] {words : List Raw} {command : Command}
    {result : Except Fault String} (hread : Command.read words = .ok command)
    (hresult : command.run node world checks env tree = some { result }) :
    run node world checks env tree words = some (quietExit env result) := by
  rw [run_of_read node world checks env tree hread, hresult, ← exitIn_quiet]
  rfl

/-! ## 3. Percentages -/

def unitOption : Parameter := { name := "unit", kind := .amount, label := "<UNIT>" }

theorem read_percent [Url.Domains] {word : String} (hword : word ∈ Name.percent.spellings)
    {value : Balance} {unit : Option Balance} {cs : List Char} {option words : List Raw}
    (hvalue : IsNumeral cs value.units) (hunit : Sets "unit" (unit.map Balance.units) option)
    (hwords : words = Text.Utf8.encode cs :: option ∨ words = option ++ [Text.Utf8.encode cs]) :
    Command.read (Text.Utf8.bytes word :: words) = .ok (.percent value unit) := by
  rw [Command.read_of_name hword]
  have hoption : Name.percentForm.HasOption unitOption := Name.hasOption .percent (by decide)
  have hamount : ∀ (b : Balance) (cs : List Char), IsNumeral cs b.units →
      unitOption.read (Text.Utf8.encode cs) = .ok (.amount b) :=
    fun b cs h => Parameter.read_amount rfl h
  rcases hwords with rfl | rfl
  · have hwritten : Written Name.percentForm Name.percentForm.positionals
        (("value", [.amount value]) :: (optionally "unit" Value.amount unit ++ []))
        (Text.Utf8.encode cs :: (option ++ [])) :=
      .place (ofRaw_numeral hvalue) (Parameter.read_amount rfl hvalue)
        (.optionally hoption rfl hunit hamount .nil)
    rw [List.append_nil, List.append_nil] at hwritten
    have hread := Form.read_of_written hwritten (by cases unit <;> simp [optionally])
    rw [Name.form, hread]
    cases unit <;> rfl
  · have hwritten : Written Name.percentForm Name.percentForm.positionals
        (optionally "unit" Value.amount unit ++ [("value", [.amount value])])
        (option ++ [Text.Utf8.encode cs]) :=
      .optionally hoption rfl hunit hamount
        (.place (ofRaw_numeral hvalue) (Parameter.read_amount rfl hvalue) .nil)
    have hread := Form.read_of_written hwritten (by cases unit <;> simp [optionally])
    rw [Name.form, hread]
    cases unit <;> rfl

theorem percentText_eq (value : Balance) (unit : Option Balance) :
    let whole := (unit.getD .oneUnit).units
    let amount := value.units * whole / 100
    percentText value unit =
      if amount < balanceBound then .ok (toString amount)
      else .error (.overflow s!"{value.units}% of {whole} does not fit in a balance") := by
  intro whole amount
  have hunit : percentText value unit =
      (Balance.percentOfUnit value (unit.getD .oneUnit)).map fun b => toString b.units := by
    cases unit <;> rfl
  rw [hunit]
  by_cases hamount : amount < balanceBound
  · have hok : Balance.percentOfUnit value (unit.getD .oneUnit) = .ok ⟨amount, hamount⟩ :=
      Balance.percentOfUnit_eq_ok_iff.mpr rfl
    rw [if_pos hamount, hok]
    rfl
  · rw [if_neg hamount,
      Balance.percentOfUnit_eq_overflow_iff.mpr (Nat.le_of_not_lt hamount)]
    rfl

/-! ## 4. Limits -/

def refTimeOption : Parameter := Name.countOption "ref-time" "<REF_TIME>"

theorem read_counts [Url.Domains] {f : Form} {p q : Parameter} (hp : f.HasOption p)
    (hq : f.HasOption q) (hpkind : p.kind = .count) (hqkind : q.kind = .count)
    (hplist : p.isList = false) (hqlist : q.isList = false) (hne : p.name ≠ q.name)
    {x y : Option UInt64} {first second : List Raw} (hfirst : Sets p.name (x.map UInt64.toNat) first)
    (hsecond : Sets q.name (y.map UInt64.toNat) second) :
    f.read (first ++ second) =
      .ok (optionally p.name Value.count x ++ optionally q.name Value.count y) := by
  have hwritten : Written f f.positionals
      (optionally p.name Value.count x ++ (optionally q.name Value.count y ++ []))
      (first ++ (second ++ [])) :=
    .optionally hp hplist hfirst (fun _ _ h => Parameter.read_count hpkind h)
      (.optionally hq hqlist hsecond (fun _ _ h => Parameter.read_count hqkind h) .nil)
  rw [List.append_nil, List.append_nil] at hwritten
  exact Form.read_of_written hwritten (by cases x <;> cases y <;> simp [optionally, hne])

theorem read_gasLimit [Url.Domains] {word : String} (hword : word ∈ Name.gasLimit.spellings)
    {refTime proofSize : Option UInt64} {first second words : List Raw}
    (hfirst : Sets "ref-time" (refTime.map UInt64.toNat) first)
    (hsecond : Sets "proof-size" (proofSize.map UInt64.toNat) second)
    (hwords : words = first ++ second ∨ words = second ++ first) :
    Command.read (Text.Utf8.bytes word :: words) = .ok (.gasLimit refTime proofSize) := by
  have hrefTime : Name.gasLimitForm.HasOption refTimeOption := Name.hasOption .gasLimit (by decide)
  have hproofSize : Name.gasLimitForm.HasOption Name.proofSizeOption :=
    Name.hasOption .gasLimit (by decide)
  rw [Command.read_of_name hword, Name.form]
  rcases hwords with rfl | rfl
  · rw [read_counts hrefTime hproofSize rfl rfl rfl rfl (by decide) hfirst hsecond]
    cases refTime <;> cases proofSize <;> rfl
  · rw [read_counts hproofSize hrefTime rfl rfl rfl rfl (by decide) hsecond hfirst]
    cases refTime <;> cases proofSize <;> rfl

theorem gasLimitText_eq (refTime proofSize : Option UInt64) :
    gasLimitText refTime proofSize =
      s!"ref time: {(refTime.getD GasLimit.defaultRefTime).toNat}\n" ++
      s!"proof size: {(proofSize.getD GasLimit.defaultProofSize).toNat}\n" ++
      s!"storage deposit limit: {10 ^ 18}" := by
  have hjoin : ∀ x y z : String, "\n".intercalate [x, y, z] = x ++ "\n" ++ y ++ "\n" ++ z :=
    fun _ _ _ => rfl
  have hfield : ∀ label value : String, field label value = label ++ ": " ++ value := fun _ _ => rfl
  have hrefTime : "ref time" ++ ": " = "ref time: " := rfl
  have hproofSize : "proof size" ++ ": " = "proof size: " := rfl
  have hdeposit : "storage deposit limit" ++ ": " = "storage deposit limit: " := rfl
  rw [gasLimitText, hjoin, hfield, hfield, hfield, hrefTime, hproofSize, hdeposit]
  simp only [String.append_assoc]
  rfl

/-! ## 5. Hexadecimal texts -/

def dataPlace : Parameter :=
  { name := "data", kind := .text, label := "<DATA>", isPositional := true }

theorem read_decode [Url.Domains] {word : String} (hword : word ∈ Name.decode.spellings)
    {s : String} (hplain : Word.ofRaw (Text.Utf8.bytes s) = .plain) :
    Command.read [Text.Utf8.bytes word, Text.Utf8.bytes s] = .ok (.decode s) := by
  rw [Command.read_of_name hword, Name.form]
  have hwritten : Written Name.decodeForm Name.decodeForm.positionals [("data", [.text s])]
      [Text.Utf8.bytes s] :=
    .place hplain (Parameter.read_text rfl s) .nil
  rw [Form.read_of_written hwritten (by simp)]
  rfl

theorem textOf_eq_error {raw : Raw} (h : ∀ s, raw ≠ Text.Utf8.bytes s) :
    textOf raw = .error .notText := by
  rw [textOf]
  cases hdecode : Text.Utf8.decode raw with
  | error e => rfl
  | ok cs =>
    rw [Text.Utf8.decode_eq_ok_iff] at hdecode
    refine absurd ?_ (h (String.ofList cs))
    rw [hdecode, Text.Utf8.bytes, String.toList_ofList]

theorem read_decode_of_not_text [Url.Domains] {word : String}
    (hword : word ∈ Name.decode.spellings) {raw : Raw} (hplain : Word.ofRaw raw = .plain)
    (h : ∀ s, raw ≠ Text.Utf8.bytes s) :
    Command.read [Text.Utf8.bytes word, raw] = .error (.misuse .notText) := by
  rw [Command.read_of_name hword, Name.form]
  have hplace := Reading.step_place (f := Name.decodeForm) (r := { positionals := [dataPlace] })
    Reading.knows_settled hplain
  have hvalue : dataPlace.read raw = .error .notText := by
    rw [Parameter.read, dataPlace]
    dsimp only
    rw [textOf_eq_error h]
    rfl
  have haccept : (Reading.collecting [] [] dataPlace [raw] false).settle = .error .notText := by
    rw [Reading.settle, Reading.collecting]
    dsimp only
    rw [Reading.accept, List.mapM_cons, hvalue]
    rfl
  have hread : Name.decodeForm.read [raw] = .error (.misuse .notText) := by
    rw [Form.read, List.foldlM_cons]
    show (Reading.step _ { positionals := [dataPlace] } raw >>= _) >>= _ = _
    rw [hplace]
    show (Except.mapError Stop.misuse (Reading.settle _)).bind _ = _
    rw [haccept]
    rfl
  rw [hread]
  rfl

theorem ofRaw_encode (t : String) :
    Word.ofRaw (Text.Utf8.bytes (HexText.encode t)) = .plain := by
  apply Word.ofRaw_eq_plain
  rw [Text.Utf8.bytes, HexText.toList_encode, head?_encode_of_ascii (by decide)]
  decide

/-! ## 6. From words to texts -/

/-- What the commands that need no node print, for every environment and every tree of files. A
percentage of an amount, or of one whole token, is printed if it is a balance and is an overflow
otherwise, wherever and in whichever form the option is given. The hexadecimal form of a text is
printed as this text, and so is every other hexadecimal text for its bytes; a text that is no such
form is a fault, and what is not even text is a misuse. The limits of calls are printed one a line,
each number that is given in the place of its own default. -/
theorem run_offline [Url.Domains] {World Handle : Type} (node : Deployed.Node World Handle)
    (world : World) (checks : Nat) (env : Environment.Variables) (tree : Files.Tree) :
    let exit (words : List Raw) := run node world checks env tree words
    let warnings := unlines ((logFilter env).2.map warningText)
    (∀ word ∈ Name.percent.spellings, ∀ (value : Balance) (unit : Option Balance) (cs : List Char)
        (option words : List Raw), IsNumeral cs value.units →
      Sets "unit" (unit.map Balance.units) option →
      words = Text.Utf8.encode cs :: option ∨ words = option ++ [Text.Utf8.encode cs] →
      let whole := (unit.map Balance.units).getD (10 ^ 18)
      let amount := value.units * whole / 100
      exit (Text.Utf8.bytes word :: words) = some
        (if amount < 2 ^ 128 then
          { code := 0, stdout := toString amount ++ "\n", stderr := warnings }
        else
          { code := 1, stderr := warnings ++ faultText
              (.overflow s!"{value.units}% of {whole} does not fit in a balance") })) ∧
    (∀ word ∈ Name.decode.spellings,
      (∀ t, exit [Text.Utf8.bytes word, Text.Utf8.bytes (HexText.encode t)] = some
        { code := 0, stdout := t ++ "\n", stderr := warnings }) ∧
      ∀ raw : Raw, raw.head? ≠ some Word.hyphen →
        (∀ s t ds, raw = Text.Utf8.bytes s → IsFramed ds s.toList →
          Denotes ds (Text.Utf8.bytes t) → exit [Text.Utf8.bytes word, raw] = some
            { code := 0, stdout := t ++ "\n", stderr := warnings }) ∧
        (∀ s, raw = Text.Utf8.bytes s →
          (∀ t ds, IsFramed ds s.toList → ¬Denotes ds (Text.Utf8.bytes t)) →
          ∃ fault, HexText.decode s = .error fault ∧ exit [Text.Utf8.bytes word, raw] = some
            { code := 1, stderr := warnings ++ faultText fault }) ∧
        ((∀ s, raw ≠ Text.Utf8.bytes s) → exit [Text.Utf8.bytes word, raw] = some
          { code := 2, stderr := warnings ++
              "error: invalid UTF-8 was detected in one or more arguments\n" })) ∧
    (∀ word ∈ Name.gasLimit.spellings, ∀ (refTime proofSize : Option UInt64)
        (first second words : List Raw), Sets "ref-time" (refTime.map UInt64.toNat) first →
      Sets "proof-size" (proofSize.map UInt64.toNat) second →
      words = first ++ second ∨ words = second ++ first →
      exit (Text.Utf8.bytes word :: words) = some
        { code := 0
          stdout := s!"ref time: {(refTime.getD GasLimit.defaultRefTime).toNat}\n" ++
            s!"proof size: {(proofSize.getD GasLimit.defaultProofSize).toNat}\n" ++
            s!"storage deposit limit: {10 ^ 18}" ++ "\n"
          stderr := warnings }) := by
  intro exit warnings
  refine ⟨?_, ?_, ?_⟩
  · intro word hword value unit cs option words hvalue hunit hwords whole amount
    have hwhole : (unit.getD .oneUnit).units = whole := by cases unit <;> rfl
    have htext := percentText_eq value unit
    rw [hwhole] at htext
    have hexit : exit (Text.Utf8.bytes word :: words) =
        some (quietExit env (percentText value unit)) :=
      run_of_result node world checks env tree (read_percent hword hvalue hunit hwords) rfl
    rw [hexit, htext]
    by_cases hamount : amount < balanceBound
    · have hpow : amount < 2 ^ 128 := hamount
      rw [if_pos hamount, if_pos hpow]
      rfl
    · have hpow : ¬amount < 2 ^ 128 := hamount
      rw [if_neg hamount, if_neg hpow]
      rfl
  · intro word hword
    have hexit : ∀ s, Word.ofRaw (Text.Utf8.bytes s) = .plain →
        exit [Text.Utf8.bytes word, Text.Utf8.bytes s] =
          some (quietExit env (HexText.decode s)) := fun s hs =>
      run_of_result node world checks env tree (read_decode hword hs) rfl
    refine ⟨?_, ?_⟩
    · intro t
      rw [hexit _ (ofRaw_encode t), HexText.decode_encode]
      rfl
    · intro raw hraw
      have hplain := Word.ofRaw_eq_plain hraw
      refine ⟨?_, ?_, ?_⟩
      · rintro s t ds rfl hframed hds
        rw [hexit s hplain, HexText.decode_eq_ok_iff.mpr ⟨ds, hframed, hds⟩]
        rfl
      · rintro s rfl hnone
        cases hfault : HexText.decode s with
        | ok t =>
          obtain ⟨ds, hframed, hds⟩ := HexText.decode_eq_ok_iff.mp hfault
          exact absurd hds (hnone t ds hframed)
        | error fault =>
          refine ⟨fault, rfl, ?_⟩
          rw [hexit s hplain, hfault]
          rfl
      · intro hnone
        show run node world checks env tree _ = _
        rw [run, read_decode_of_not_text hword hplain hnone]
        rfl
  · intro word hword refTime proofSize first second words hfirst hsecond hwords
    have hexit : exit (Text.Utf8.bytes word :: words) =
        some (quietExit env (.ok (gasLimitText refTime proofSize))) :=
      run_of_result node world checks env tree (read_gasLimit hword hfirst hsecond hwords) rfl
    rw [hexit, gasLimitText_eq]
    rfl

end Runs

/-- Half of an amount, from numerals with a zero and a sign in front and with the option before the
value; one letter, written in hexadecimal; and the limits with another proof size. -/
theorem run_offline_halfUnit :
    letI : Url.Domains := .plain
    IsNumeral "050".toList 50 ∧ Sets "unit" (some 150) [joined "unit" (Text.Utf8.bytes "+150")] ∧
    run .unreachable () 0 [] ⟨[], []⟩ [Text.Utf8.bytes "p",
        joined "unit" (Text.Utf8.bytes "+150"), Text.Utf8.bytes "050"] =
      some { code := 0, stdout := "75\n" } ∧
    run .unreachable () 0 [] ⟨[], []⟩ [Text.Utf8.bytes "decode", Text.Utf8.bytes "4A"] =
      some { code := 0, stdout := "J\n" } ∧
    run .unreachable () 0 [] ⟨[], []⟩ [Text.Utf8.bytes "g", dashed "proof-size",
        Text.Utf8.bytes (toString 7)] =
      some { code := 0, stdout :=
        "ref time: 8999999990\nproof size: 7\nstorage deposit limit: 1000000000000000000\n" } := by
  let _ : Url.Domains := .plain
  have hvalue : IsNumeral "050".toList 50 :=
    ⟨['0', '5', '0'], .inl rfl, by decide, List.all_eq_true.mp rfl, rfl⟩
  have hsigned : IsNumeral "+150".toList 150 :=
    ⟨['1', '5', '0'], .inr rfl, by decide, List.all_eq_true.mp rfl, rfl⟩
  have hunit : Sets "unit" (some 150) [joined "unit" (Text.Utf8.bytes "+150")] := .joined hsigned
  have hproof : Sets "proof-size" (some 7) [dashed "proof-size", Text.Utf8.bytes (toString 7)] :=
    .apart (Numeral.isNumeral_toString 7)
  rcases run_offline .unreachable () 0 [] ⟨[], []⟩ with ⟨hpercent, hdecode, hlimits⟩
  refine ⟨hvalue, hunit, ?_, ?_, ?_⟩
  · exact hpercent "p" (by decide) ⟨50, by decide⟩ (some ⟨150, by decide⟩) _ _ _ hvalue hunit
      (.inr rfl)
  · refine ((hdecode "decode" (by decide)).2 _ (by decide)).1 "4A" "J" ['4', 'A'] rfl ?_ ?_
    · exact ⟨[], [], [], nofun, nofun, .inl rfl, rfl⟩
    · exact .pair (n := 4) (m := 10) rfl rfl .nil
  · exact hlimits "g" (by decide) none (some 7) _ _ _ .absent hproof (.inl rfl)

/-- An argument that is no text is not hexadecimal either, and yet its run does not end as a fault
does: the command line cannot be read. -/
theorem not_fault_of_not_text :
    letI : Url.Domains := .plain
    ¬∀ raw : Raw, raw.head? ≠ some Word.hyphen →
      (∀ s t ds, raw = Text.Utf8.bytes s → IsFramed ds s.toList → ¬Denotes ds (Text.Utf8.bytes t)) →
      (run .unreachable () 0 [] ⟨[], []⟩ [Text.Utf8.bytes "decode", raw]).map Exit.code = some 1 := by
  let _ : Url.Domains := .plain
  intro h
  have hnone : ∀ s, [0xFF] ≠ Text.Utf8.bytes s := by
    intro s hs
    have hdecode := Text.Utf8.decode_eq_ok_iff.mpr hs
    have hfault : Text.Utf8.decode [0xFF] = .error ⟨0, some 1⟩ := by
      rw [Text.Utf8.decode, Text.Utf8.pieces.eq_def]
      rfl
    cases hfault.symm.trans hdecode
  have hcode := h [0xFF] (by decide) fun s t ds hs => absurd hs (hnone s)
  have hplain : Word.ofRaw [0xFF] = .plain := Word.ofRaw_eq_plain (by decide)
  have hword : "decode" ∈ Name.decode.spellings := by decide
  have hread := read_decode_of_not_text hword hplain hnone
  rw [run, hread] at hcode
  cases hcode

end Preflight.CommandLine
