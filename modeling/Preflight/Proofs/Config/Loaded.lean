import Preflight.Proofs.Config.Environment
import Preflight.Proofs.Wait.Asleep

/-!
Loaded configurations. Whatever a document or an environment leaves out or sets, a configuration
that is made from it keeps the numbers that are given, and a wait under it ends: there always is a
bound of the attempts, and no two checks are further apart than the longest delay.
-/

namespace Preflight

open Document (Gives KeepsGiven)

namespace Config

/-! ## 1. Bounded configurations -/

/-- A wait under the configuration never goes on for ever. Its delays do not shrink, its attempts
have a bound, and from this, whatever is checked: it ends, after no more checks than the bound, and
what it takes beyond its checks, which is the time it is asleep, is no more than the longest delay
between each two of them. -/
def IsBounded (c : Config) : Prop :=
  1 ≤ c.finalization.backoff.toNat ∧
  ∃ m, c.finalization.maxAttempts = some m ∧
    ∀ {σ : Type} (watch : Watch σ) (state : σ),
      let s : Wait.Schedule σ := ⟨c.finalization, watch, state⟩
      ∃ (outcome : Wait.Outcome σ) (asleep : Nat),
        (∀ checks, max m.toNat 1 ≤ checks →
          Wait.run checks c none watch state = some outcome) ∧
        outcome.trace.checkTimes.length ≤ max m.toNat 1 ∧
        outcome.time = ∑ n ∈ Finset.range outcome.trace.checkTimes.length, (s.check n).takes
          + asleep ∧
        asleep ≤ (max m.toNat 1 - 1) *
          max c.finalization.pollInterval.nanos c.finalization.maxInterval.nanos

theorem isBounded_of_maxAttempts {c : Config} {m : UInt32}
    (hbackoff : 1 ≤ c.finalization.backoff.toNat) (hm : c.finalization.maxAttempts = some m) :
    c.IsBounded := by
  refine ⟨hbackoff, m, hm, ?_⟩
  intro σ watch state
  match c, hm with
  | ⟨.test, p⟩, hm =>
    exact ⟨⟨.ok (), 0, [⟨0, .line Wait.testModeLine⟩], state⟩, 0, fun _ _ => rfl, Nat.zero_le _,
      rfl, Nat.zero_le _⟩
  | ⟨.live, p⟩, hm =>
    exact Wait.exists_outcome_of_maxAttempts ⟨p, watch, state⟩ hm

/-! ## 2. Loading -/

theorem ofDocument_eq_ok {document : String} {c : Config} (h : ofDocument document = .ok c) :
    ∃ sections fields, Toml.sections document.toList = .ok sections ∧
      Document.fieldsOf sections = .ok fields ∧
      c.finalization = (fields.finalization.getD {}).policy ∧ c.finalization.backoff ≠ 0 := by
  obtain ⟨sections, fields, hsections, hfields, hbackoff, rfl⟩ := ofDocument_eq_ok_iff.mp h
  exact ⟨sections, fields, hsections, hfields, rfl, hbackoff⟩

-- Where a document or an environment sets no bound of the attempts, the standard bound is kept.
theorem exists_maxAttempts (f : Document.PolicyFields) : ∃ m, f.policy.maxAttempts = some m := by
  cases hm : f.maxAttempts with
  | none => exact ⟨60, by rw [Document.PolicyFields.policy, hm]; rfl⟩
  | some m => exact ⟨m, by rw [Document.PolicyFields.policy, hm]; rfl⟩

/-- A configuration that is loaded bounds every wait and keeps the numbers that are given, whether
it comes from a document or from an environment. Times that are given as numbers of milliseconds are
kept to the nanosecond, and nothing of what is not given differs from the standard. No number of an
environment is too large for this: the environment is accepted whenever its numbers are below the
bounds of their words. -/
theorem loaded_isBounded :
    (∀ document c, ofDocument document = .ok c → c.IsBounded ∧
      ∃ sections, Toml.sections document.toList = .ok sections ∧
        KeepsGiven (Gives sections) c.finalization) ∧
    (∀ env c, ofEnvironment env = .ok c → c.IsBounded ∧
      KeepsGiven (Environment.Gives env) c.finalization) ∧
    (∀ env, (∃ c, ofEnvironment env = .ok c) ↔
      Environment.IsFit env Environment.pollIntervalVariable (Nat.pow 2 64) ∧
      Environment.IsFit env Environment.maxAttemptsVariable (Nat.pow 2 32) ∧
      Environment.IsFit env Environment.timeoutVariable (Nat.pow 2 64)) := by
  refine ⟨?_, ?_, fun env => Environment.exists_ofEnvironment_iff⟩
  · intro document c h
    obtain ⟨sections, fields, hsections, hfields, hpolicy, hbackoff⟩ := ofDocument_eq_ok h
    obtain ⟨m, hm⟩ := exists_maxAttempts (fields.finalization.getD {})
    have hpos : 1 ≤ c.finalization.backoff.toNat :=
      Nat.one_le_iff_ne_zero.mpr fun hzero => hbackoff (UInt32.toNat_inj.mp hzero)
    refine ⟨isBounded_of_maxAttempts hpos (hpolicy ▸ hm), sections, hsections, ?_⟩
    rw [hpolicy]
    exact Document.keepsGiven_policy (Document.valueOf_fieldsOf hfields)
  · intro env c h
    obtain ⟨poll, attempts, timeout, hpoll, hattempts, htimeout, rfl⟩ :=
      Environment.ofEnvironment_eq_ok_iff.mp h
    obtain ⟨m, hm⟩ := exists_maxAttempts (Environment.fieldsWith poll attempts timeout)
    have hstandard : 1 ≤ Policy.standard.backoff.toNat := by decide
    exact ⟨isBounded_of_maxAttempts hstandard hm,
      Document.keepsGiven_policy (Environment.valueOf_fieldsWith hpoll hattempts htimeout)⟩

/-- Checks half a second apart, sixty of them. -/
def halfSecond : Config := .live { pollInterval := .ofMillis 500 }

theorem ofDocument_halfSecond :
    ofDocument "[finalization]\npoll_interval_ms=500" = .ok halfSecond := by
  have hlex : Toml.lex (Toml.marks "[finalization]\npoll_interval_ms=500".toList) =
      ⟨[⟨0, .leftBracket⟩, ⟨1, .word "finalization".toList⟩, ⟨13, .rightBracket⟩, ⟨14, .newline⟩,
        ⟨15, .word "poll_interval_ms".toList⟩, ⟨31, .equals⟩, ⟨32, .word "500".toList⟩], none⟩ := by
    decide +kernel
  rw [ofDocument, Document.read, Toml.sections, hlex]
  rfl

/-- The same interval, given by a document and by a variable. -/
theorem loaded_isBounded_halfSecond :
    let env : Environment.Variables := [("POP_TX_POLL_INTERVAL_MS", Text.Utf8.bytes " 500 ")]
    ofDocument "[finalization]\npoll_interval_ms=500" = .ok halfSecond ∧ halfSecond.IsBounded ∧
    ofEnvironment env = .ok halfSecond ∧
    KeepsGiven (Environment.Gives env) halfSecond.finalization := by
  intro env
  have hpoll : Environment.number env Environment.pollIntervalVariable (Nat.pow 2 64)
      = .ok (some 500) := by
    rw [Environment.number_eq_ok_some]
    have hvalue : Environment.lookUp env Environment.pollIntervalVariable
        = some [' ', '5', '0', '0', ' '] := by
      decide +kernel
    have hdigits : ∀ c ∈ ['5', '0', '0'], c.isDigit = true := by
      simp [Char.isDigit]
    exact ⟨_, hvalue, ⟨_, .inl rfl, List.cons_ne_nil _ _, hdigits, rfl⟩, by decide⟩
  have henv : ofEnvironment env = .ok halfSecond :=
    Environment.ofEnvironment_eq_ok_iff.mpr ⟨some 500, none, none, hpoll, rfl, rfl, rfl⟩
  exact ⟨ofDocument_halfSecond, (loaded_isBounded.1 _ _ ofDocument_halfSecond).1, henv,
    (loaded_isBounded.2.1 _ _ henv).2⟩

end Config

end Preflight
