import Mathlib.Data.List.Basic
import Preflight.Numeral.Unsigned

/-!
Unsigned numerals, by their grammar: an optional plus sign and at least one ASCII digit. The bound
is watched while the digits are read, and that is the same as comparing the whole value with it:
further digits never lower a value.
-/

namespace Preflight.Numeral

def digitValue (c : Char) : Nat := c.toNat - 48

/-- The decimal value of digits behind a value. -/
def valueFrom (value : Nat) (ds : List Char) : Nat :=
  ds.foldl (fun v c => v * 10 + digitValue c) value

/-- The text is an optional plus sign and digits, at least one, with a decimal value. -/
def IsNumeral (cs : List Char) (n : Nat) : Prop :=
  ∃ ds, (cs = ds ∨ cs = '+' :: ds) ∧ ds ≠ [] ∧ (∀ c ∈ ds, c.isDigit = true) ∧ n = valueFrom 0 ds

theorem le_valueFrom (value : Nat) (ds : List Char) : value ≤ valueFrom value ds := by
  induction ds generalizing value with
  | nil => exact Nat.le_refl value
  | cons d ds ih =>
    have hrest := ih (value * 10 + digitValue d)
    rw [valueFrom, List.foldl_cons, ← valueFrom]
    omega

theorem valueFrom_cons (value : Nat) (d : Char) (ds : List Char) :
    valueFrom value (d :: ds) = valueFrom (value * 10 + digitValue d) ds := by
  rw [valueFrom, List.foldl_cons, valueFrom]

theorem readDigits_cons {bound value : Nat} {d : Char} {ds : List Char} (hd : d.isDigit = true) :
    readDigits bound value (d :: ds) =
      if value * 10 + digitValue d < bound then readDigits bound (value * 10 + digitValue d) ds
      else .error .tooLarge := by
  rw [readDigits, digit?, if_pos hd]
  rfl

-- A value behind which no digit is read has to lie below the bound by itself.
theorem readDigits_eq_ok_iff {bound value n : Nat} {ds : List Char}
    (h : ds = [] → value < bound) : readDigits bound value ds = .ok n ↔
      (∀ c ∈ ds, c.isDigit = true) ∧ n = valueFrom value ds ∧ n < bound := by
  induction ds generalizing value with
  | nil =>
    rw [readDigits]
    constructor
    · intro hn
      cases hn
      exact ⟨fun c hc => absurd hc List.not_mem_nil, rfl, h rfl⟩
    · rintro ⟨-, rfl, -⟩
      rfl
  | cons d ds ih =>
    rw [valueFrom_cons, List.forall_mem_cons]
    by_cases hd : d.isDigit = true
    · rw [readDigits_cons hd]
      by_cases hnext : value * 10 + digitValue d < bound
      · rw [if_pos hnext, ih fun _ => hnext]
        simp only [hd, true_and]
      · rw [if_neg hnext]
        constructor
        · intro hn
          cases hn
        · rintro ⟨-, rfl, hlt⟩
          have hle := le_valueFrom (value * 10 + digitValue d) ds
          exact absurd (Nat.lt_of_le_of_lt hle hlt) hnext
    · rw [readDigits, digit?, if_neg hd]
      constructor
      · intro hn
        cases hn
      · exact fun hn => absurd hn.1.1 hd

theorem not_isDigit_plus : ¬ Char.isDigit '+' = true := by
  decide

theorem isNumeral_plus {cs : List Char} {n : Nat} : IsNumeral ('+' :: cs) n ↔
    cs ≠ [] ∧ (∀ c ∈ cs, c.isDigit = true) ∧ n = valueFrom 0 cs := by
  constructor
  · rintro ⟨ds, rfl | hds, hnil, hdigits, hn⟩
    · exact absurd (hdigits '+' List.mem_cons_self) not_isDigit_plus
    · cases hds
      exact ⟨hnil, hdigits, hn⟩
  · exact fun h => ⟨cs, .inr rfl, h⟩

theorem isNumeral_of_not_plus {cs : List Char} {n : Nat} (h : ∀ ds, cs ≠ '+' :: ds) :
    IsNumeral cs n ↔ cs ≠ [] ∧ (∀ c ∈ cs, c.isDigit = true) ∧ n = valueFrom 0 cs := by
  constructor
  · rintro ⟨ds, rfl | hds, hrest⟩
    · exact hrest
    · exact absurd hds (h ds)
  · exact fun hrest => ⟨cs, .inl rfl, hrest⟩

/-- A text is read as a number exactly if it is a numeral for it and the number lies below the
bound. -/
theorem readUnsigned_eq_ok_iff {bound n : Nat} {cs : List Char} :
    readUnsigned bound cs = .ok n ↔ IsNumeral cs n ∧ n < bound := by
  fun_cases readUnsigned bound cs
  case case1 =>
    rw [isNumeral_of_not_plus (by simp)]
    simp
  case case2 =>
    rw [isNumeral_plus]
    simp
  case case3 ds hds =>
    have hnil : ds ≠ [] := by simpa using hds
    rw [readDigits_eq_ok_iff fun h => absurd h hnil, isNumeral_plus, and_iff_right hnil, and_assoc]
  case case4 hnil hsign hplus =>
    have hnil : cs ≠ [] := by simpa using hnil
    rw [readDigits_eq_ok_iff fun h => absurd h hnil, isNumeral_of_not_plus hplus,
      and_iff_right hnil, and_assoc]

theorem valueFrom_eq_ofDigitChars (value : Nat) (ds : List Char) :
    valueFrom value ds = Nat.ofDigitChars 10 ds value := by
  rw [valueFrom, Nat.ofDigitChars]
  simp only [digitValue, Nat.mul_comm]
  rfl

/-- The decimal text of a number is at least one digit, and its value is the number. -/
theorem toString_digits (n : Nat) : (toString n).toList ≠ [] ∧
    (∀ c ∈ (toString n).toList, c.isDigit = true) ∧ n = valueFrom 0 (toString n).toList := by
  have htext : (toString n).toList = Nat.toDigits 10 n := String.toList_ofList
  rw [htext]
  refine ⟨Nat.toDigits_ne_nil, ?_, ?_⟩
  · exact fun c hc => Nat.isDigit_of_mem_toDigits (by decide) (Nat.le_refl 10) hc
  · rw [valueFrom_eq_ofDigitChars, Nat.ofDigitChars_ten_toDigits]

/-- The decimal text of a number that is not zero does not begin with a zero. -/
theorem head_toString_ne_zero {n : Nat} (hn : 0 < n) :
    ∀ c ∈ (toString n).toList.head?, c ≠ '0' := by
  have htext : (toString n).toList = Nat.toDigits 10 n := String.toList_ofList
  rw [htext]
  clear htext
  induction n using Nat.strongRecOn with
  | ind n ih =>
    rw [Nat.toDigits_eq_if (by decide)]
    split
    case isTrue hlt =>
      have hdigit : ∀ d : Fin 10, 0 < d.val → d.val.digitChar ≠ '0' := by decide
      intro c hc
      cases hc
      exact hdigit ⟨n, hlt⟩ hn
    case isFalse hle =>
      rw [List.head?_append_of_ne_nil _ Nat.toDigits_ne_nil]
      exact ih (n / 10) (by omega) (by omega)

/-- The decimal text of a number is a numeral for it. -/
theorem isNumeral_toString (n : Nat) : IsNumeral (toString n).toList n :=
  ⟨_, .inl rfl, toString_digits n⟩

/-- A numeral has one value. -/
theorem IsNumeral.unique {cs : List Char} {n m : Nat} (hn : IsNumeral cs n) (hm : IsNumeral cs m) :
    n = m := by
  have hread : ∀ k, IsNumeral cs k → k ≤ max n m → readUnsigned (max n m + 1) cs = .ok k :=
    fun k hk hle => readUnsigned_eq_ok_iff.mpr ⟨hk, Nat.lt_succ_of_le hle⟩
  have h := (hread n hn (Nat.le_max_left n m)).symm.trans (hread m hm (Nat.le_max_right n m))
  exact Except.ok.inj h

end Preflight.Numeral
