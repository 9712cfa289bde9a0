import Preflight.Environment
import Preflight.Proofs.Config.Document
import Preflight.Proofs.Numeral.Unsigned

/-!
What environment variables give for the fields of the policy. An environment is accepted if each
variable for a number is unset or holds a numeral below its bound, and then it replaces exactly the
fields for which it gives a number.
-/

namespace Preflight

namespace Environment

open Document (PolicyField KeepsGiven)
open Numeral (IsNumeral)

/-! ## 1. Numbers -/

/-- The variable that holds the number for a field, if there is one. -/
def variableOf : PolicyField → Option String
  | .pollInterval => some pollIntervalVariable
  | .maxAttempts => some maxAttemptsVariable
  | .timeout => some timeoutVariable
  | _ => none

/-- The number for a field stands in its variable, as a numeral that may have blanks around it. -/
def Gives (env : Variables) (field : PolicyField) (n : Nat) : Prop :=
  ∃ name value, variableOf field = some name ∧ lookUp env name = some value ∧
    IsNumeral (Text.trim value) n

theorem number_eq_ok_none {env : Variables} {name : String} {bound : Nat} :
    number env name bound = .ok none ↔ lookUp env name = none := by
  rw [number]
  cases lookUp env name with
  | none => simp
  | some value =>
    dsimp only
    cases Numeral.readUnsigned bound (Text.trim value) <;> simp

theorem number_eq_ok_some {env : Variables} {name : String} {bound n : Nat} :
    number env name bound = .ok (some n) ↔
      ∃ value, lookUp env name = some value ∧ IsNumeral (Text.trim value) n ∧ n < bound := by
  rw [number]
  cases lookUp env name with
  | none => simp
  | some value =>
    simp only [Option.some.injEq, exists_eq_left', ← Numeral.readUnsigned_eq_ok_iff]
    cases Numeral.readUnsigned bound (Text.trim value) <;> simp

theorem eq_some_iff_of_number {env : Variables} {name : String} {bound : Nat} {r : Option Nat}
    (h : number env name bound = .ok r) (n : Nat) :
    r = some n ↔ ∃ value, lookUp env name = some value ∧ IsNumeral (Text.trim value) n := by
  cases r with
  | none =>
    rw [number_eq_ok_none] at h
    simp [h]
  | some m =>
    obtain ⟨value, hvalue, hm, -⟩ := number_eq_ok_some.mp h
    simp only [hvalue, Option.some.injEq, exists_eq_left']
    exact ⟨fun he => he ▸ hm, hm.unique⟩

theorem lt_of_number {env : Variables} {name : String} {bound : Nat} {r : Option Nat}
    (h : number env name bound = .ok r) : ∀ n ∈ r, n < bound := by
  rintro n rfl
  obtain ⟨value, -, -, hlt⟩ := number_eq_ok_some.mp h
  exact hlt

/-- A variable for a number that is accepted: it is unset, or it holds a numeral below its bound. -/
def IsFit (env : Variables) (name : String) (bound : Nat) : Prop :=
  ∀ value, lookUp env name = some value → ∃ n, IsNumeral (Text.trim value) n ∧ n < bound

theorem exists_number_iff {env : Variables} {name : String} {bound : Nat} :
    (∃ n, number env name bound = .ok n) ↔ IsFit env name bound := by
  rw [Option.exists, number_eq_ok_none]
  simp only [number_eq_ok_some, IsFit]
  cases lookUp env name with
  | none => simp
  | some value => simp

/-! ## 2. Configurations -/

def modeIn (env : Variables) : Mode :=
  match lookUp env modeVariable with
  | some value => modeOf value
  | none => .live

/-- The fields of the policy that the numbers in the environment set. -/
def fieldsWith (poll attempts timeout : Option Nat) : Document.PolicyFields where
  pollIntervalMs := poll.map UInt64.ofNat
  maxAttempts := attempts.map UInt32.ofNat
  timeoutMs := timeout.map UInt64.ofNat

theorem ofEnvironment_eq_ok_iff {env : Variables} {config : Config} :
    Config.ofEnvironment env = .ok config ↔ ∃ poll attempts timeout,
      number env pollIntervalVariable (Nat.pow 2 64) = .ok poll ∧
      number env maxAttemptsVariable (Nat.pow 2 32) = .ok attempts ∧
      number env timeoutVariable (Nat.pow 2 64) = .ok timeout ∧
      config =
        { mode := modeIn env, finalization := (fieldsWith poll attempts timeout).policy } := by
  have hwith : ∀ poll attempts timeout,
      number env pollIntervalVariable (Nat.pow 2 64) = .ok poll →
      number env maxAttemptsVariable (Nat.pow 2 32) = .ok attempts →
      number env timeoutVariable (Nat.pow 2 64) = .ok timeout →
      Config.ofEnvironment env = .ok
        { mode := modeIn env, finalization := (fieldsWith poll attempts timeout).policy } := by
    intro poll attempts timeout hpoll hattempts htimeout
    rw [Config.ofEnvironment, hpoll, hattempts, htimeout]
    cases poll <;> cases attempts <;> cases timeout <;> rfl
  constructor
  · intro h
    obtain ⟨poll, hpoll, h'⟩ := bind_eq_ok_iff.mp h
    obtain ⟨attempts, hattempts, h'⟩ := bind_eq_ok_iff.mp h'
    obtain ⟨timeout, htimeout, -⟩ := bind_eq_ok_iff.mp h'
    rw [hwith poll attempts timeout hpoll hattempts htimeout] at h
    exact ⟨poll, attempts, timeout, hpoll, hattempts, htimeout, (Except.ok.inj h).symm⟩
  · rintro ⟨poll, attempts, timeout, hpoll, hattempts, htimeout, rfl⟩
    exact hwith poll attempts timeout hpoll hattempts htimeout

/-- The numbers that are read from an accepted environment are those that it gives. -/
theorem valueOf_fieldsWith {env : Variables} {poll attempts timeout : Option Nat}
    (hpoll : number env pollIntervalVariable (Nat.pow 2 64) = .ok poll)
    (hattempts : number env maxAttemptsVariable (Nat.pow 2 32) = .ok attempts)
    (htimeout : number env timeoutVariable (Nat.pow 2 64) = .ok timeout) (field : PolicyField)
    (n : Nat) : field.valueOf (fieldsWith poll attempts timeout) = some n ↔ Gives env field n := by
  have h64 : ∀ r : Option Nat, (∀ m ∈ r, m < Nat.pow 2 64) →
      (r.map UInt64.ofNat).map UInt64.toNat = r := by
    rintro (_ | m) hm
    · rfl
    · exact congrArg some (UInt64.toNat_ofNat_of_lt' (hm m rfl))
  have h32 : ∀ r : Option Nat, (∀ m ∈ r, m < Nat.pow 2 32) →
      (r.map UInt32.ofNat).map UInt32.toNat = r := by
    rintro (_ | m) hm
    · rfl
    · exact congrArg some (UInt32.toNat_ofNat_of_lt' (hm m rfl))
  cases field with
  | pollInterval =>
    rw [PolicyField.valueOf, fieldsWith, h64 poll (lt_of_number hpoll),
      eq_some_iff_of_number hpoll]
    simp [Gives, variableOf]
  | maxAttempts =>
    rw [PolicyField.valueOf, fieldsWith, h32 attempts (lt_of_number hattempts),
      eq_some_iff_of_number hattempts]
    simp [Gives, variableOf]
  | timeout =>
    rw [PolicyField.valueOf, fieldsWith, h64 timeout (lt_of_number htimeout),
      eq_some_iff_of_number htimeout]
    simp [Gives, variableOf]
  | backoff => simp [Gives, variableOf, PolicyField.valueOf, fieldsWith]
  | maxInterval => simp [Gives, variableOf, PolicyField.valueOf, fieldsWith]

/-- An environment is accepted exactly if each of its variables for a number is fit. -/
theorem exists_ofEnvironment_iff {env : Variables} :
    (∃ config, Config.ofEnvironment env = .ok config) ↔
      IsFit env pollIntervalVariable (Nat.pow 2 64) ∧ IsFit env maxAttemptsVariable (Nat.pow 2 32) ∧
        IsFit env timeoutVariable (Nat.pow 2 64) := by
  simp only [← exists_number_iff, ofEnvironment_eq_ok_iff]
  constructor
  · rintro ⟨_, poll, attempts, timeout, hpoll, hattempts, htimeout, -⟩
    exact ⟨⟨poll, hpoll⟩, ⟨attempts, hattempts⟩, ⟨timeout, htimeout⟩⟩
  · rintro ⟨⟨poll, hpoll⟩, ⟨attempts, hattempts⟩, ⟨timeout, htimeout⟩⟩
    exact ⟨_, poll, attempts, timeout, hpoll, hattempts, htimeout, rfl⟩

end Environment

end Preflight
