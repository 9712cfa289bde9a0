import Preflight.Proofs.Numeral.Unsigned
import Preflight.Toml.Number

/-!
Decimal integers of a document. The decimal text of an integer, with a minus sign if it is negative,
is read as this integer if the integer has sixty-four bits, and refused otherwise.
-/

namespace Preflight.Toml

open Numeral (digitValue valueFrom)

/-! ## 1. Decimal texts -/

theorem toList_toString_natCast (m : Nat) : (toString (m : Int)).toList = (toString m).toList := rfl

theorem toList_toString_negSucc (m : Nat) :
    (toString (Int.negSucc m)).toList = '-' :: (toString (m + 1)).toList := by
  have htext : toString (Int.negSucc m) = "-" ++ toString (m + 1) := rfl
  rw [htext, String.toList_append]
  rfl

/-- The decimal text of an integer begins with a digit or a minus sign, and digits follow. -/
theorem toList_toString_int (n : Int) : ∃ c ds, (toString n).toList = c :: ds ∧
    (c = '-' ∨ c.isDigit = true) ∧ ∀ d ∈ ds, d.isDigit = true := by
  cases n with
  | ofNat m =>
    obtain ⟨hnil, hdigits, -⟩ := Numeral.toString_digits m
    obtain ⟨c, ds, htext⟩ := List.exists_cons_of_ne_nil hnil
    rw [htext] at hdigits
    obtain ⟨hc, hds⟩ := List.forall_mem_cons.mp hdigits
    exact ⟨c, ds, (toList_toString_natCast m).trans htext, .inr hc, hds⟩
  | negSucc m =>
    obtain ⟨-, hdigits, -⟩ := Numeral.toString_digits (m + 1)
    exact ⟨'-', _, toList_toString_negSucc m, .inl rfl, hdigits⟩

/-! ## 2. Runs of digits -/

/-- Decimal digits with a sign and without leading zeros. -/
def decimal : DigitRule := { sign := true, leadingZeros := false }

theorem digitValue?_of_isDigit {c : Char} (h : c.isDigit = true) :
    digitValue? 10 c = some (digitValue c) := by
  have hc : 48 ≤ c.toNat ∧ c.toNat ≤ 57 := Char.isDigit_iff_toNat.mp h
  have hrange : '0' ≤ c ∧ c ≤ '9' :=
    ⟨UInt32.le_iff_toNat_le.mpr hc.1, UInt32.le_iff_toNat_le.mpr hc.2⟩
  rw [digitValue?, Text.Hex.value?, if_pos hrange]
  dsimp only
  rw [if_pos (by omega)]
  rfl

-- Behind a first digit that is not zero, all further digits belong to the run.
theorem splitDigits_rest (start offset : Nat) {ds : List Char}
    (hds : ∀ c ∈ ds, c.isDigit = true) :
    splitDigits decimal start offset ⟨false, false, false⟩ ds = .ok (ds, []) := by
  induction ds generalizing offset with
  | nil => rfl
  | cons d ds ih =>
    obtain ⟨hd, hds⟩ := List.forall_mem_cons.mp hds
    rw [splitDigits]
    simp only [decimal, digitValue?_of_isDigit hd, Bool.and_false, Bool.false_eq_true, if_false,
      Option.isSome_some, if_true, Bool.not_false, Bool.and_true]
    rw [decimal] at ih
    rw [ih (offset + 1) hds]
    rfl

theorem splitDigits_toString (m start offset : Nat) :
    splitDigits decimal start offset {} (toString m).toList = .ok ((toString m).toList, []) := by
  obtain ⟨hnil, hdigits, -⟩ := Numeral.toString_digits m
  rcases Nat.eq_zero_or_pos m with rfl | hpos
  · rfl
  · have hhead := Numeral.head_toString_ne_zero hpos
    obtain ⟨d, ds, htext⟩ := List.exists_cons_of_ne_nil hnil
    rw [htext] at hdigits hhead ⊢
    obtain ⟨hd, hds⟩ := List.forall_mem_cons.mp hdigits
    have hzero : d ≠ '0' := hhead d rfl
    have hrest := splitDigits_rest start (offset + 1) hds
    rw [decimal] at hrest ⊢
    rw [splitDigits]
    simp only [hzero, digitValue?_of_isDigit hd, decide_false, Bool.false_and, Bool.false_eq_true,
      if_false, Option.isSome_some, if_true, Bool.not_true, hrest]
    rfl

theorem filterMap_digitValue? {ds : List Char} (hds : ∀ c ∈ ds, c.isDigit = true) :
    ds.filterMap (digitValue? 10) = ds.map digitValue := by
  rw [← List.filterMap_eq_map]
  exact List.filterMap_congr fun c hc => digitValue?_of_isDigit (hds c hc)

/-- The magnitude that is read from the decimal text of a number. -/
theorem foldl_digits_toString (m : Nat) :
    ((toString m).toList.filterMap (digitValue? 10)).foldl (fun n d => n * 10 + d) 0 = m := by
  obtain ⟨-, hdigits, hvalue⟩ := Numeral.toString_digits m
  rw [filterMap_digitValue? hdigits, List.foldl_map]
  exact hvalue.symm

/-! ## 3. Integers -/

/-- The integer has sixty-four bits, one of them for its sign. -/
def IsWord (n : Int) : Prop := -integerBound ≤ n ∧ n < integerBound

instance (n : Int) : Decidable (IsWord n) := inferInstanceAs (Decidable (_ ∧ _))

theorem readDigits_natCast (m start : Nat) : readDigits decimal start (toString m).toList =
    .ok ⟨false, (toString m).toList.filterMap (digitValue? 10), []⟩ := by
  obtain ⟨hnil, hdigits, -⟩ := Numeral.toString_digits m
  have hsplit := splitDigits_toString m start start
  obtain ⟨d, ds, htext⟩ := List.exists_cons_of_ne_nil hnil
  rw [htext] at hdigits hsplit ⊢
  have hminus : d ≠ '-' := by
    rintro rfl
    exact nomatch hdigits '-' List.mem_cons_self
  rw [readDigits]
  · simp only [hsplit]
    rfl
  · exact fun r h => hminus (List.cons.inj h).1

theorem readDigits_negSucc (m start : Nat) :
    readDigits decimal start ('-' :: (toString (m + 1)).toList) =
      .ok ⟨true, (toString (m + 1)).toList.filterMap (digitValue? 10), []⟩ := by
  have hsplit := splitDigits_toString (m + 1) start (start + 1)
  show (splitDigits decimal start (start + 1) {} (toString (m + 1)).toList >>= _) = _
  rw [hsplit]
  rfl

/-- The value of a run of decimal digits with its sign. -/
def Digits.value (run : Digits) : Int :=
  let magnitude : Int := (run.digits.foldl (fun n d => n * 10 + d) 0 : Nat)
  if run.negative then -magnitude else magnitude

/-- A run that is nothing but digits is an integer if that is a word of sixty-four bits. -/
theorem readInteger_of_readDigits {start : Nat} {cs : List Char} {run : Digits}
    (h : readDigits decimal start cs = .ok run) (hrest : run.rest = []) :
    readInteger decimal start cs =
      if IsWord run.value then .ok run.value else .error (.here .badNumber start) := by
  have hword : (run.rest.isEmpty && decide (-integerBound ≤ run.value) &&
      decide (run.value < integerBound)) = true ↔ IsWord run.value := by
    simp [hrest, IsWord]
  rw [readInteger, h]
  show (if (run.rest.isEmpty && decide (-integerBound ≤ run.value) &&
    decide (run.value < integerBound)) = true then _ else _) = _
  by_cases hin : IsWord run.value
  · rw [if_pos (hword.mpr hin), if_pos hin]
    rfl
  · rw [if_neg fun htrue => hin (hword.mp htrue), if_neg hin]
    rfl

/-- The decimal text of an integer is read as this integer if that is a word of sixty-four bits. -/
theorem readInteger_toString (n : Int) (start : Nat) :
    readInteger decimal start (toString n).toList =
      if IsWord n then .ok n else .error (.here .badNumber start) := by
  cases n with
  | ofNat m =>
    have hread := readInteger_of_readDigits (readDigits_natCast m start) rfl
    rw [Digits.value, foldl_digits_toString] at hread
    exact hread
  | negSucc m =>
    have hread := readInteger_of_readDigits (readDigits_negSucc m start) rfl
    rw [Digits.value, foldl_digits_toString] at hread
    rw [toList_toString_negSucc]
    exact hread

end Preflight.Toml
