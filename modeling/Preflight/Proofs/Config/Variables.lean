import Preflight.Proofs.Config.Environment
import Preflight.Proofs.Config.Written
import Preflight.Proofs.Text.Hex

/-!
Configurations from variables, and from documents that say the same. The variables for numbers are
read in a fixed order, and the first one that is not fit is the one that is reported; the variable
for the mode is never at fault. An environment that is accepted and a document with the same mode
and the same numbers give the same configuration, as long as a document can hold the numbers.
-/

namespace Preflight

namespace Environment

open Document (PolicyField KeepsGiven Writes IsChoice)
open Numeral (IsNumeral)

/-! ## 1. Variables -/

/-- What is looked up is the text of which the raw value is the UTF-8 form. -/
theorem lookUp_eq_some_iff {env : Variables} {name : String} {text : List Char} :
    lookUp env name = some text ↔ env.lookup name = some (Text.Utf8.encode text) := by
  rw [lookUp]
  cases env.lookup name with
  | none => simp
  | some bytes =>
    simp only [Option.some.injEq, ← Text.Utf8.decode_eq_ok_iff]
    cases Text.Utf8.decode bytes with
    | error fault => simp [Except.toOption]
    | ok cs => simp [Except.toOption]

/-- The fields of the policy that have a variable, in the order in which these are read. -/
def readOrder : List PolicyField := [.pollInterval, .maxAttempts, .timeout]

/-- The variable for a field is fit: if it holds a text, this is a numeral between blanks, for a
number that the word of the field can hold. -/
def Accepts (env : Variables) (field : PolicyField) : Prop :=
  ∀ name, variableOf field = some name → IsFit env name field.width.bound.toNat

theorem mem_readOrder_of_gives {env : Variables} {field : PolicyField} {n : Nat}
    (h : Gives env field n) : field ∈ readOrder := by
  obtain ⟨name, _, hname, -⟩ := h
  cases field with
  | pollInterval => decide
  | maxAttempts => decide
  | timeout => decide
  | backoff => exact nomatch hname
  | maxInterval => exact nomatch hname

theorem exists_number_error {env : Variables} {name : String} {bound : Nat}
    (h : ¬IsFit env name bound) : ∃ reason : Numeral.Fault,
      number env name bound = .error (.config s!"Invalid value for {name}: {reason.message}") := by
  rw [← exists_number_iff] at h
  rw [number] at h ⊢
  cases hvalue : lookUp env name with
  | none => exact absurd ⟨none, by simp only [hvalue]⟩ h
  | some value =>
    simp only [hvalue] at h ⊢
    cases hread : Numeral.readUnsigned bound (Text.trim value) with
    | error reason => exact ⟨reason, rfl⟩
    | ok n => exact absurd ⟨some n, by simp only [hread]⟩ h

/-! ## 2. The first fault -/

/-- A field is the first one whose variable is not fit. -/
def IsFirstOffending (env : Variables) (field : PolicyField) : Prop :=
  ∃ before after, readOrder = before ++ field :: after ∧ (∀ other ∈ before, Accepts env other) ∧
    ¬Accepts env field

variable {env : Variables}

theorem accepts_iff (field : PolicyField) {name : String} (hname : variableOf field = some name) :
    Accepts env field ↔ ∃ n, number env name field.width.bound.toNat = .ok n := by
  rw [exists_number_iff, Accepts, hname]
  simp

theorem exists_ofEnvironment_iff_accepts :
    (∃ config, Config.ofEnvironment env = .ok config) ↔ ∀ field ∈ readOrder, Accepts env field := by
  simp only [readOrder, List.forall_mem_cons, List.not_mem_nil, false_imp_iff, implies_true,
    and_true, accepts_iff .pollInterval rfl, accepts_iff .maxAttempts rfl, accepts_iff .timeout rfl,
    exists_number_iff, exists_ofEnvironment_iff]
  rfl

open Classical in
theorem exists_isFirstOffending (h : ¬∀ field ∈ readOrder, Accepts env field) :
    ∃ field, IsFirstOffending env field := by
  push Not at h
  obtain ⟨other, hmem, hother⟩ := h
  have hfound : (readOrder.find? fun field => ¬Accepts env field).isSome = true :=
    List.find?_isSome.mpr ⟨other, hmem, decide_eq_true hother⟩
  obtain ⟨field, hfield⟩ := Option.isSome_iff_exists.mp hfound
  obtain ⟨hoffends, before, after, horder, hbefore⟩ := List.find?_eq_some_iff_append.mp hfield
  refine ⟨field, before, after, horder, fun other hother => ?_, of_decide_eq_true hoffends⟩
  simpa using hbefore other hother

/-- The numbers are read until the first variable that is not fit, and this one is reported. -/
theorem ofEnvironment_of_isFirstOffending {field : PolicyField} (h : IsFirstOffending env field) :
    ∃ name, variableOf field = some name ∧ ∃ reason : Numeral.Fault,
      Config.ofEnvironment env
        = .error (.config s!"Invalid value for {name}: {reason.message}") := by
  obtain ⟨before, after, horder, hbefore, hoffends⟩ := h
  rw [Accepts] at hoffends
  push Not at hoffends
  obtain ⟨name, hname, hunfit⟩ := hoffends
  obtain ⟨reason, hreason⟩ := exists_number_error hunfit
  refine ⟨name, hname, reason, ?_⟩
  match before, horder with
  | [], horder =>
    cases horder
    cases hname
    have hpoll : number env pollIntervalVariable (Nat.pow 2 64) = _ := hreason
    rw [Config.ofEnvironment, hpoll]
    rfl
  | [_], horder =>
    cases horder
    cases hname
    obtain ⟨poll, hpoll⟩ := (accepts_iff _ rfl).mp (hbefore .pollInterval (by simp))
    have hpoll : number env pollIntervalVariable (Nat.pow 2 64) = _ := hpoll
    have hattempts : number env maxAttemptsVariable (Nat.pow 2 32) = _ := hreason
    rw [Config.ofEnvironment, hpoll, hattempts]
    rfl
  | [_, _], horder =>
    cases horder
    cases hname
    obtain ⟨poll, hpoll⟩ := (accepts_iff _ rfl).mp (hbefore .pollInterval (by simp))
    obtain ⟨attempts, hattempts⟩ := (accepts_iff _ rfl).mp (hbefore .maxAttempts (by simp))
    have hpoll : number env pollIntervalVariable (Nat.pow 2 64) = _ := hpoll
    have hattempts : number env maxAttemptsVariable (Nat.pow 2 32) = _ := hattempts
    have htimeout : number env timeoutVariable (Nat.pow 2 64) = _ := hreason
    rw [Config.ofEnvironment, hpoll, hattempts, htimeout]
    rfl
  | [_, _, _], horder => cases horder
  | _ :: _ :: _ :: _ :: _, horder => cases horder

/-! ## 3. Modes -/

/-- The word `test`, each letter of it in either case. -/
def IsTestWord (text : List Char) : Prop :=
  ∃ a ∈ ['t', 'T'], ∃ b ∈ ['e', 'E'], ∃ c ∈ ['s', 'S'], ∃ d ∈ ['t', 'T'], text = [a, b, c, d]

theorem toLower_eq_iff_ascii : ∀ k : Fin 128, ∀ i : Fin 3,
    ((Char.ofNat k).toLower = ['t', 'e', 's'].get i ↔
      Char.ofNat k ∈ [['t', 'e', 's'].get i, (['t', 'e', 's'].get i).toUpper]) := by
  decide +kernel

theorem toLower_eq_iff {c letter : Char} (h : letter ∈ ['t', 'e', 's']) :
    c.toLower = letter ↔ c ∈ [letter, letter.toUpper] := by
  by_cases hc : c.toNat < 0x80
  · obtain ⟨i, rfl⟩ := List.get_of_mem h
    have hascii := toLower_eq_iff_ascii ⟨c.toNat, hc⟩ i
    rwa [Char.ofNat_toNat] at hascii
  · have hletter : ∀ l ∈ ['t', 'e', 's'], ∀ d ∈ [l, l.toUpper], d.toNat < 0x80 := by simp
    rw [Text.Hex.toLower_of_not_ascii hc]
    constructor
    · exact fun heq => heq ▸ List.mem_cons_self
    · exact fun hmem => absurd (hletter letter h c hmem) hc

theorem modeOf_eq_test_iff {text : List Char} :
    modeOf text = .test ↔ IsTestWord (Text.trim text) := by
  have hif : modeOf text = .test ↔ (Text.trim text).map Char.toLower = ['t', 'e', 's', 't'] := by
    rw [modeOf]
    split <;> simp [*]
  rw [hif]
  constructor
  · intro h
    obtain ⟨a, _, htext, ha, h⟩ := List.map_eq_cons_iff.mp h
    obtain ⟨b, _, rfl, hb, h⟩ := List.map_eq_cons_iff.mp h
    obtain ⟨c, _, rfl, hc, h⟩ := List.map_eq_cons_iff.mp h
    obtain ⟨d, _, rfl, hd, h⟩ := List.map_eq_cons_iff.mp h
    rw [List.map_eq_nil_iff.mp h] at htext
    exact ⟨a, (toLower_eq_iff (by decide)).mp ha, b, (toLower_eq_iff (by decide)).mp hb,
      c, (toLower_eq_iff (by decide)).mp hc, d, (toLower_eq_iff (by decide)).mp hd, htext⟩
  · rintro ⟨a, ha, b, hb, c, hc, d, hd, htext⟩
    rw [htext, List.map_cons, (toLower_eq_iff (by decide)).mpr ha, List.map_cons,
      (toLower_eq_iff (by decide)).mpr hb, List.map_cons, (toLower_eq_iff (by decide)).mpr hc,
      List.map_cons, (toLower_eq_iff (by decide)).mpr hd, List.map_nil]

theorem modeIn_eq_test_iff : modeIn env = .test ↔
    ∃ text, lookUp env modeVariable = some text ∧ IsTestWord (Text.trim text) := by
  rw [modeIn]
  cases lookUp env modeVariable with
  | none => simp
  | some text => simpa using modeOf_eq_test_iff

-- What the environment says of the mode has no part in a fault.
theorem ofEnvironment_error_congr {env' : Variables}
    (h : ∀ field name, variableOf field = some name → env'.lookup name = env.lookup name)
    (fault : Fault) :
    Config.ofEnvironment env' = .error fault ↔ Config.ofEnvironment env = .error fault := by
  have hnumber : ∀ field name bound, variableOf field = some name →
      number env' name bound = number env name bound := by
    intro field name bound hname
    rw [number, number, lookUp, lookUp, h field name hname]
  rw [Config.ofEnvironment, Config.ofEnvironment, hnumber .pollInterval _ _ rfl,
    hnumber .maxAttempts _ _ rfl, hnumber .timeout _ _ rfl]
  cases number env pollIntervalVariable (Nat.pow 2 64) with
  | error e => exact Iff.rfl
  | ok poll =>
    cases number env maxAttemptsVariable (Nat.pow 2 32) with
    | error e => exact Iff.rfl
    | ok attempts =>
      cases number env timeoutVariable (Nat.pow 2 64) with
      | error e => exact Iff.rfl
      | ok timeout =>
        constructor
        · intro hfault
          cases hfault
        · intro hfault
          cases hfault

/-! ## 4. Documents that say the same -/

/-- The variable for the mode holds the word of this mode between blanks, or no text if there is
none. -/
def NamesMode (env : Variables) : Option Mode → Prop
  | none => lookUp env modeVariable = none
  | some m => ∃ text, lookUp env modeVariable = some text ∧ Text.trim text = m.word.toList

/-- The numbers that the environment gives for the fields, in some order. -/
structure Lists (env : Variables) (given : List (PolicyField × Nat)) : Prop where
  nodup : (given.map Prod.fst).Nodup
  mem_iff : ∀ field n, (field, n) ∈ given ↔ Gives env field n

theorem modeIn_of_namesMode {mode : Option Mode} (h : NamesMode env mode) :
    modeIn env = mode.getD .live := by
  rw [modeIn]
  cases mode with
  | none =>
    have hnone : lookUp env modeVariable = none := h
    rw [hnone]
    rfl
  | some m =>
    obtain ⟨text, hsome, hword⟩ := h
    rw [hsome]
    dsimp only
    rw [modeOf, hword]
    cases m with
    | live => decide
    | test => decide

theorem exists_lists {config : Config} (h : Config.ofEnvironment env = .ok config) :
    ∃ given, Lists env given := by
  obtain ⟨poll, attempts, timeout, hpoll, hattempts, htimeout, -⟩ := ofEnvironment_eq_ok_iff.mp h
  have hvalue := valueOf_fieldsWith hpoll hattempts htimeout
  let numberFor := fun field : PolicyField => field.valueOf (fieldsWith poll attempts timeout)
  refine ⟨readOrder.filterMap fun field => (numberFor field).map (field, ·), ?_, ?_⟩
  · rw [List.map_filterMap]
    refine List.Nodup.filterMap (fun field field' other h h' => ?_) (by decide)
    simp only [Option.map_map, Option.mem_def, Option.map_eq_some_iff] at h h'
    obtain ⟨_, -, rfl⟩ := h
    obtain ⟨_, -, hsame⟩ := h'
    exact hsame.symm
  · intro field n
    rw [← hvalue, List.mem_filterMap]
    constructor
    · rintro ⟨other, -, hother⟩
      obtain ⟨m, hm, heq⟩ := Option.map_eq_some_iff.mp hother
      cases heq
      exact hm
    · intro hn
      exact ⟨field, mem_readOrder_of_gives ((hvalue field n).mp hn), by simp [numberFor, hn]⟩

theorem Lists.isChoice {given : List (PolicyField × Nat)} (h : Lists env given)
    (hlimit : ∀ field n, Gives env field n → n < field.limit) : IsChoice given where
  nodup := h.nodup
  lt_limit := fun p hp => hlimit p.1 p.2 ((h.mem_iff p.1 p.2).mp hp)
  backoff_ne_zero := fun hmem => by
    obtain ⟨name, _, hname, -⟩ := (h.mem_iff _ _).mp hmem
    exact nomatch hname

theorem keepsGiven_ofEnvironment {config : Config} (h : Config.ofEnvironment env = .ok config) :
    config.mode = modeIn env ∧ KeepsGiven (Gives env) config.finalization := by
  obtain ⟨poll, attempts, timeout, hpoll, hattempts, htimeout, rfl⟩ :=
    ofEnvironment_eq_ok_iff.mp h
  exact ⟨rfl, Document.keepsGiven_policy (valueOf_fieldsWith hpoll hattempts htimeout)⟩

/-- A document with the mode and the numbers of an accepted environment gives its configuration. -/
theorem ofDocument_of_lists {mode : Option Mode} {given : List (PolicyField × Nat)}
    {d : Toml.Draft} {config : Config} (h : Config.ofEnvironment env = .ok config)
    (hmode : NamesMode env mode) (hlimit : ∀ field n, Gives env field n → n < field.limit)
    (hgiven : Lists env given) (hwrites : Writes mode given d) :
    Config.ofDocument d.text = .ok config := by
  obtain ⟨c, hc, hcmode, hkeeps⟩ := hwrites.exists_config (hgiven.isChoice hlimit)
  obtain ⟨hin, hkeeps'⟩ := keepsGiven_ofEnvironment h
  have hsame : c = config := by
    refine Config.ext ?_ (hkeeps.unique hkeeps' hgiven.mem_iff)
    rw [hcmode, hin, modeIn_of_namesMode hmode]
    rfl
  rw [hc, hsame]

/-! ## 5. Configurations -/

/-- Every environment gives a configuration or a fault. It is accepted exactly if each variable for a
number is fit: unset, not UTF-8, or between blanks a numeral that the word of its field can hold.
Then the numbers that are given replace exactly their own fields, and the mode is test exactly if
its variable holds the word `test`, in any case and between blanks. Otherwise the fault names the
first variable in the order of reading that is not fit, and the mode has no part in it. Where a
document can hold the numbers and the mode is named by its word, the configuration is that of every
document with the same mode and the same numbers, and there are such documents. -/
theorem ofEnvironment_accepts_or_reports (env : Variables) :
    (∀ name text, lookUp env name = some text ↔
      env.lookup name = some (Text.Utf8.encode text)) ∧
    ((∃ c, Config.ofEnvironment env = .ok c) ↔ ∀ field ∈ readOrder, Accepts env field) ∧
    (∀ c, Config.ofEnvironment env = .ok c → KeepsGiven (Gives env) c.finalization ∧
      (c.mode = .test ↔
        ∃ text, lookUp env modeVariable = some text ∧ IsTestWord (Text.trim text))) ∧
    ((¬∀ field ∈ readOrder, Accepts env field) → ∃ field, IsFirstOffending env field ∧
      ∃ name, variableOf field = some name ∧ ∃ reason : Numeral.Fault,
        Config.ofEnvironment env
          = .error (.config s!"Invalid value for {name}: {reason.message}")) ∧
    (∀ env' : Variables,
      (∀ field name, variableOf field = some name → env'.lookup name = env.lookup name) →
      ∀ fault, Config.ofEnvironment env' = .error fault ↔
        Config.ofEnvironment env = .error fault) ∧
    ∀ mode, NamesMode env mode → (∀ field ∈ readOrder, Accepts env field) →
      (∀ field n, Gives env field n → n < field.limit) →
      ∃ c, Config.ofEnvironment env = .ok c ∧ (∃ given d, Lists env given ∧ Writes mode given d) ∧
        ∀ given d, Lists env given → Writes mode given d → Config.ofDocument d.text = .ok c := by
  refine ⟨fun _ _ => lookUp_eq_some_iff, exists_ofEnvironment_iff_accepts, fun c hc => ?_,
    fun hunfit => ?_, fun env' henv' fault => ofEnvironment_error_congr henv' fault,
    fun mode hmode haccepts hlimit => ?_⟩
  · obtain ⟨hmode, hkeeps⟩ := keepsGiven_ofEnvironment hc
    exact ⟨hkeeps, by rw [hmode, modeIn_eq_test_iff]⟩
  · obtain ⟨field, hfirst⟩ := exists_isFirstOffending hunfit
    exact ⟨field, hfirst, ofEnvironment_of_isFirstOffending hfirst⟩
  · obtain ⟨c, hc⟩ := exists_ofEnvironment_iff_accepts.mpr haccepts
    obtain ⟨given, hgiven⟩ := exists_lists hc
    exact ⟨c, hc, ⟨given, _, hgiven, Document.writes_draft mode given⟩,
      fun given' d hgiven' hwrites => ofDocument_of_lists hc hmode hlimit hgiven' hwrites⟩

/-- Two bad numbers, of which the one for the attempts is read first, whatever the mode; and two good
ones, with a document that gives the same. -/
theorem ofEnvironment_accepts_or_reports_attempts :
    let bad : Variables := [(timeoutVariable, Text.Utf8.bytes "-1"),
      (maxAttemptsVariable, Text.Utf8.bytes "soon")]
    let bad' : Variables := (modeVariable, Text.Utf8.bytes "TEST") :: bad
    let good : Variables := [(modeVariable, Text.Utf8.bytes " test"),
      (pollIntervalVariable, Text.Utf8.bytes "+250\n"), (maxAttemptsVariable, [0xFF]),
      (timeoutVariable, Text.Utf8.bytes "1000")]
    let given : List (PolicyField × Nat) := [(.timeout, 1000), (.pollInterval, 250)]
    let c : Config := ⟨.test, { pollInterval := .ofMillis 250, timeout := some (.ofMillis 1000) }⟩
    (¬∀ field ∈ readOrder, Accepts bad field) ∧ (∃ field, IsFirstOffending bad field) ∧
    Config.ofEnvironment bad = .error (.config
      "Invalid value for POP_TX_MAX_ATTEMPTS: invalid digit found in string") ∧
    (∀ field name, variableOf field = some name → bad'.lookup name = bad.lookup name) ∧
    Config.ofEnvironment bad' = Config.ofEnvironment bad ∧
    NamesMode good (some .test) ∧ (∀ field ∈ readOrder, Accepts good field) ∧
    (∀ field n, Gives good field n → n < field.limit) ∧ Lists good given ∧
    Config.ofEnvironment good = .ok c ∧ KeepsGiven (Gives good) c.finalization ∧
    Config.ofDocument (Document.draft (some .test) given).text = .ok c := by
  intro bad bad' good given c
  obtain ⟨-, haccepts, -, hreports, hsameFault, -⟩ := ofEnvironment_accepts_or_reports bad
  have hbad : Config.ofEnvironment bad = .error (.config
      "Invalid value for POP_TX_MAX_ATTEMPTS: invalid digit found in string") := by
    decide +kernel
  have hunfit : ¬∀ field ∈ readOrder, Accepts bad field := by
    intro hall
    obtain ⟨c', hc'⟩ := haccepts.mpr hall
    rw [hbad] at hc'
    cases hc'
  obtain ⟨field, hfirst, -⟩ := hreports hunfit
  have hagree : ∀ field name, variableOf field = some name →
      bad'.lookup name = bad.lookup name := by
    intro field name hname
    cases field <;> cases hname <;> decide +kernel
  have hbad' : Config.ofEnvironment bad' = Config.ofEnvironment bad :=
    ((hsameFault bad' hagree _).mpr hbad).trans hbad.symm
  obtain ⟨-, haccepts', hkeeps, -, -, hsame⟩ := ofEnvironment_accepts_or_reports good
  have hpoll : number good pollIntervalVariable (Nat.pow 2 64) = .ok (some 250) := by
    decide +kernel
  have hattempts : number good maxAttemptsVariable (Nat.pow 2 32) = .ok none := by decide +kernel
  have htimeout : number good timeoutVariable (Nat.pow 2 64) = .ok (some 1000) := by decide +kernel
  have hgood : Config.ofEnvironment good = .ok c := by decide +kernel
  have hmode : NamesMode good (some .test) := ⟨" test".toList, by decide +kernel, by decide⟩
  have hvalue := valueOf_fieldsWith hpoll hattempts htimeout
  have hgiven : Lists good given := by
    refine ⟨by decide, fun field n => ?_⟩
    rw [← hvalue]
    cases field <;> simp [given, PolicyField.valueOf, fieldsWith, eq_comm]
  have hlimit : ∀ field n, Gives good field n → n < field.limit := by
    intro field n hn
    have hmem := (hgiven.mem_iff field n).mpr hn
    revert hmem
    simp only [given, List.mem_cons, List.not_mem_nil, or_false, Prod.mk.injEq]
    rintro (⟨rfl, rfl⟩ | ⟨rfl, rfl⟩)
    · decide
    · decide
  have hall := haccepts'.mp ⟨c, hgood⟩
  obtain ⟨c', hc', -, hdocument⟩ := hsame _ hmode hall hlimit
  rw [hgood] at hc'
  cases hc'
  exact ⟨hunfit, ⟨field, hfirst⟩, hbad, hagree, hbad', hmode, hall, hlimit, hgiven, hgood,
    (hkeeps c hgood).1, hdocument given _ hgiven (Document.writes_draft _ _)⟩

end Environment

end Preflight
