import Mathlib.Algebra.Group.Nat.Defs
import Preflight.Balance
import Preflight.Proofs.Numeral.Unsigned
import Preflight.Proofs.Text.Trim

/-!
Spelled amounts. A text is read as an amount exactly if, once the blanks around it and then all its
underscores are gone, it is a numeral for a number of units that is small enough. So underscores and
leading zeros may stand anywhere in the decimal text of an amount, and no spelling of a number that
is too large is accepted.
-/

namespace Preflight.Balance

open Numeral (IsNumeral digitValue valueFrom)
open Text (AllBlank IsTrimmed isBlank)

/-! ## 1. Spellings -/

/-- The text spells the number: between blanks, a part without blanks at its ends, which is a numeral
for the number once its underscores are left out. -/
def Spells (cs : List Char) (n : Nat) : Prop :=
  ∃ before middle after, AllBlank before ∧ AllBlank after ∧ IsTrimmed middle ∧
    cs = before ++ middle ++ after ∧ IsNumeral (middle.filter (· != '_')) n

theorem spells_iff {cs : List Char} {n : Nat} : Spells cs n ↔ IsNumeral (numeralOf cs) n := by
  constructor
  · rintro ⟨before, middle, after, hbefore, hafter, hmiddle, rfl, hn⟩
    have htrim : Text.trim (before ++ middle ++ after) = middle :=
      Text.trim_eq_iff.mpr ⟨hmiddle, before, after, hbefore, hafter, rfl⟩
    rwa [numeralOf, htrim]
  · intro hn
    obtain ⟨htrimmed, before, after, hbefore, hafter, hcs⟩ :=
      Text.trim_eq_iff.mp (rfl : Text.trim cs = Text.trim cs)
    exact ⟨before, _, after, hbefore, hafter, htrimmed, hcs, hn⟩

/-- A text spells one number at most. -/
theorem Spells.unique {cs : List Char} {n m : Nat} (hn : Spells cs n) (hm : Spells cs m) : n = m :=
  (spells_iff.mp hn).unique (spells_iff.mp hm)

/-! ## 2. Reading -/

theorem readNumeral_eq_ok_iff {cs : List Char} {b : Balance} :
    readNumeral cs = .ok b ↔ IsNumeral cs b.units := by
  have hread : readNumeral cs = .ok b ↔ Numeral.readUnsigned balanceBound cs = .ok b.units := by
    rw [readNumeral]
    split
    case h_1 n h => simp [h, Balance.ext_iff]
    case h_2 e h => simp [h]
  rw [hread, Numeral.readUnsigned_eq_ok_iff, and_iff_left b.units_lt]

theorem parse_eq_ok_iff {s : String} {b : Balance} :
    parse s = .ok b ↔ Spells s.toList b.units := by
  rw [spells_iff, ← readNumeral_eq_ok_iff, parse]
  cases readNumeral (numeralOf s.toList) <;> simp

theorem parse_cases (s : String) :
    (∃ b, parse s = .ok b) ∨ ∃ detail, parse s = .error (.balance detail) := by
  rw [parse]
  cases readNumeral (numeralOf s.toList) with
  | error e => exact .inr ⟨_, rfl⟩
  | ok b => exact .inl ⟨b, rfl⟩

theorem exists_parse_iff {s : String} :
    (∃ b, parse s = .ok b) ↔ ∃ n < balanceBound, Spells s.toList n := by
  simp only [parse_eq_ok_iff]
  exact ⟨fun ⟨b, h⟩ => ⟨b.units, b.units_lt, h⟩, fun ⟨n, hn, h⟩ => ⟨⟨n, hn⟩, h⟩⟩

theorem exists_parse_error_iff {s : String} : (∃ detail, parse s = .error (.balance detail)) ↔
    ¬∃ n < balanceBound, Spells s.toList n := by
  rw [← exists_parse_iff]
  rcases parse_cases s with ⟨b, hb⟩ | ⟨detail, hfault⟩
  · simp [hb]
  · simp [hfault]

/-! ## 3. Spelled amounts -/

theorem valueFrom_zeros (k : Nat) (ds : List Char) :
    valueFrom 0 (List.replicate k '0' ++ ds) = valueFrom 0 ds := by
  induction k with
  | zero => rfl
  | succ k ih =>
    rw [List.replicate_succ, List.cons_append, Numeral.valueFrom_cons]
    exact ih

theorem digits_zeros (k n : Nat) :
    ∀ c ∈ List.replicate k '0' ++ (toString n).toList, c.isDigit = true := by
  obtain ⟨-, hdigits, -⟩ := Numeral.toString_digits n
  intro c hc
  rcases List.mem_append.mp hc with hc | hc
  · rw [List.eq_of_mem_replicate hc]
    decide
  · exact hdigits c hc

/-- Zeros in front of the decimal text of a number leave it a numeral for the number. -/
theorem isNumeral_zeros (k n : Nat) : IsNumeral (List.replicate k '0' ++ (toString n).toList) n := by
  obtain ⟨hnil, -, hn⟩ := Numeral.toString_digits n
  exact ⟨_, .inl rfl, fun h => hnil (List.append_eq_nil_iff.mp h).2, digits_zeros k n,
    by rw [valueFrom_zeros, ← hn]⟩

theorem not_isBlank_of_isDigit {c : Char} (h : c.isDigit = true) : isBlank c = false := by
  have hc : 48 ≤ c.toNat ∧ c.toNat ≤ 57 := Char.isDigit_iff_toNat.mp h
  simp only [isBlank, Bool.or_eq_false_iff, Bool.and_eq_false_iff, decide_eq_false_iff_not,
    beq_eq_false_iff_ne]
  omega

-- An underscore is no blank, so it is enough to look at what is left without underscores.
theorem isTrimmed_of_digits {cs : List Char}
    (h : ∀ c ∈ cs.filter (· != '_'), c.isDigit = true) : IsTrimmed cs := by
  refine Text.isTrimmed_of_forall fun c hc => ?_
  by_cases hunderscore : c = '_'
  · rw [hunderscore]
    decide
  · exact not_isBlank_of_isDigit (h c (List.mem_filter.mpr ⟨hc, by simpa using hunderscore⟩))

/-- The decimal text of an amount with zeros in front and underscores anywhere, between blanks, is
read as the amount. -/
theorem parse_spelled {b : Balance} {zeros : Nat} {before middle after : List Char}
    (hbefore : AllBlank before) (hafter : AllBlank after)
    (hmiddle : middle.filter (· != '_') = List.replicate zeros '0' ++ (toString b.units).toList) :
    parse (String.ofList (before ++ middle ++ after)) = .ok b := by
  have hdigits : ∀ c ∈ middle.filter (· != '_'), c.isDigit = true := by
    rw [hmiddle]
    exact digits_zeros zeros b.units
  rw [parse_eq_ok_iff, String.toList_ofList]
  refine ⟨before, middle, after, hbefore, hafter, isTrimmed_of_digits hdigits, rfl, ?_⟩
  rw [hmiddle]
  exact isNumeral_zeros zeros b.units

/-- Reading an amount is inverse to writing it. A text is read as an amount exactly if it spells its
number of units, and refused as a balance exactly if it spells no number below `2 ^ 128`. So zeros in
front and underscores anywhere in the decimal text of an amount change nothing, nor do blanks around
it, and a number that is too large is refused however it is spelled. -/
theorem parse_spelling :
    (∀ s n, (∃ b, parse s = .ok b ∧ b.units = n) ↔ Spells s.toList n ∧ n < 2 ^ 128) ∧
    (∀ s, (∃ detail, parse s = .error (.balance detail)) ↔
      ¬∃ n < 2 ^ 128, Spells s.toList n) ∧
    (∀ (b : Balance) zeros before middle after, AllBlank before → AllBlank after →
      middle.filter (· != '_') = List.replicate zeros '0' ++ (toString b.units).toList →
      parse (String.ofList (before ++ middle ++ after)) = .ok b) ∧
    (∀ s n, Spells s.toList n → 2 ^ 128 ≤ n → ∃ detail, parse s = .error (.balance detail)) := by
  refine ⟨?_, fun _ => exists_parse_error_iff, fun _ _ _ _ _ => parse_spelled, ?_⟩
  · intro s n
    constructor
    · rintro ⟨b, hb, rfl⟩
      exact ⟨parse_eq_ok_iff.mp hb, b.units_lt⟩
    · rintro ⟨hspells, hn⟩
      exact ⟨⟨n, hn⟩, parse_eq_ok_iff.mpr hspells, rfl⟩
  · intro s n hspells hlarge
    rw [exists_parse_error_iff]
    rintro ⟨m, hm, hspells'⟩
    rw [hspells.unique hspells'] at hlarge
    exact absurd hm (Nat.not_lt_of_le hlarge)

theorem parse_spelling_largest :
    parse "\u20030_034_0282366920938463463374607431768211455_\n" = .ok ⟨2 ^ 128 - 1, by decide⟩ ∧
      ∃ detail, parse (String.ofList ('+' :: '1' :: '_' :: List.replicate 39 '0')) =
        .error (.balance detail) := by
  have hbefore : AllBlank ['\u2003'] := List.forall_mem_singleton.mpr rfl
  have hafter : AllBlank ['\n'] := List.forall_mem_singleton.mpr rfl
  have hnone : AllBlank [] := fun c hc => nomatch hc
  have hlarge : Spells (String.ofList ('+' :: '1' :: '_' :: List.replicate 39 '0')).toList
      (10 ^ 39) := by
    rw [String.toList_ofList]
    refine ⟨[], _, [], hnone, hnone, ?_, (List.append_nil _).symm, ?_⟩
    · exact Text.isTrimmed_of_forall fun c hc =>
        eq_false_of_ne_true (List.any_eq_false.mp (by decide) c hc)
    · exact ⟨'1' :: List.replicate 39 '0', .inr (by decide), by decide,
        List.all_eq_true.mp (by decide), by decide⟩
  constructor
  · exact parse_spelling.2.2.1 ⟨2 ^ 128 - 1, by decide⟩ 2 ['\u2003']
      "0_034_0282366920938463463374607431768211455_".toList ['\n'] hbefore hafter (by decide)
  · exact parse_spelling.2.2.2 _ _ hlarge (by decide)

end Preflight.Balance
