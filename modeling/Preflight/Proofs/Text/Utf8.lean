import Mathlib.Order.Basic
import Preflight.Text.Utf8

/-!
UTF-8 decoding and encoding undo each other. A character has one legal form, the shortest one, and
the pieces of a byte string that are characters are exactly the legal forms in it. So a byte string
is read as a text if and only if it is the encoding of this text, and longer forms, surrogates,
numbers above U+10FFFF and forms that break off are no text.
-/

namespace Preflight.Text.Utf8

/-! ## 1. Forms -/

-- a byte behind the first one of a form; it carries six bits
def tailByte (n : Nat) : UInt8 := UInt8.ofNat (n % 64 + 0x80)

/-- The form that spells a number with so many bytes behind its first one, three at most. -/
def form : Nat → Nat → List UInt8
  | 0, n => [UInt8.ofNat n]
  | 1, n => [UInt8.ofNat (n / 64 + 0xC0), tailByte n]
  | 2, n => [UInt8.ofNat (n / 4096 + 0xE0), tailByte (n / 64), tailByte n]
  | _ + 3, n =>
    [UInt8.ofNat (n / 262144 + 0xF0), tailByte (n / 4096), tailByte (n / 64), tailByte n]

/-- The number of bytes behind the first one in the shortest form of a number. -/
def tails (n : Nat) : Nat :=
  if n < 0x80 then 0 else if n < 0x800 then 1 else if n < 0x10000 then 2 else 3

theorem toNat_ofNat {n : Nat} (h : n < 0x100) : (UInt8.ofNat n).toNat = n := by
  rw [UInt8.toNat_ofNat', Nat.mod_eq_of_lt h]

theorem toNat_tailByte (n : Nat) : (tailByte n).toNat = n % 64 + 0x80 := by
  rw [tailByte, toNat_ofNat (by omega)]

theorem isTail_iff {b : UInt8} : isTail b = true ↔ 0x80 ≤ b.toNat ∧ b.toNat ≤ 0xBF := by
  simp [isTail, UInt8.le_iff_toNat_le]

theorem isTail_tailByte (n : Nat) : isTail (tailByte n) = true := by
  rw [isTail_iff, toNat_tailByte]
  omega

theorem toNat_lt (c : Char) : c.toNat < 0x110000 := by
  rcases c.valid with h | ⟨-, h⟩
  · exact Nat.lt_trans h (by decide)
  · exact h

theorem toNat_charOfNat {n : Nat} (h : n.isValidChar) : (Char.ofNat n).toNat = n := by
  rw [Char.ofNat, dif_pos h]
  rfl

-- a number by its last six bits and the others
theorem sextets (x : Nat) {y : Nat} (hy : y < 64) :
    (x * 64 + y) / 64 = x ∧ (x * 64 + y) % 64 = y := by
  omega

theorem div_4096 (n : Nat) : n / 4096 = n / 64 / 64 :=
  (Nat.div_div_eq_div_mul n 64 64).symm

theorem div_262144 (n : Nat) : n / 262144 = n / 4096 / 64 :=
  (Nat.div_div_eq_div_mul n 4096 64).symm

theorem tailByte_sextet (x : Nat) {y : Nat} (hy : y < 64) :
    tailByte (x * 64 + y) = UInt8.ofNat (y + 0x80) := by
  rw [tailByte, (sextets x hy).2]

theorem form_one (x : Nat) {y : Nat} (hy : y < 64) :
    form 1 (x * 64 + y) = [UInt8.ofNat (x + 0xC0), UInt8.ofNat (y + 0x80)] := by
  rw [form, tailByte_sextet x hy, (sextets x hy).1]

theorem form_two (x : Nat) {y z : Nat} (hy : y < 64) (hz : z < 64) :
    form 2 ((x * 64 + y) * 64 + z) =
      [UInt8.ofNat (x + 0xE0), UInt8.ofNat (y + 0x80), UInt8.ofNat (z + 0x80)] := by
  rw [form, div_4096, tailByte_sextet _ hz, (sextets _ hz).1, tailByte_sextet x hy,
    (sextets x hy).1]

theorem form_three (x : Nat) {y z w : Nat} (hy : y < 64) (hz : z < 64) (hw : w < 64) :
    form 3 (((x * 64 + y) * 64 + z) * 64 + w) =
      [UInt8.ofNat (x + 0xF0), UInt8.ofNat (y + 0x80), UInt8.ofNat (z + 0x80),
        UInt8.ofNat (w + 0x80)] := by
  rw [form, div_262144, div_4096, tailByte_sextet _ hw, (sextets _ hw).1, tailByte_sextet _ hz,
    (sextets _ hz).1, tailByte_sextet x hy, (sextets x hy).1]

/-- The encoding of a character is its shortest form. -/
theorem utf8EncodeChar_eq_form (c : Char) :
    String.utf8EncodeChar c = form (tails c.toNat) c.toNat := by
  have hc := toNat_lt c
  have hval : c.val.toNat = c.toNat := rfl
  have h0 : c.toNat ≤ 0x7f ↔ c.toNat < 0x80 := Nat.lt_succ_iff.symm
  have h1 : c.toNat ≤ 0x7ff ↔ c.toNat < 0x800 := Nat.lt_succ_iff.symm
  have h2 : c.toNat ≤ 0xffff ↔ c.toNat < 0x10000 := Nat.lt_succ_iff.symm
  rw [String.utf8EncodeChar, tails]
  simp only [hval, h0, h1, h2]
  split
  · rfl
  split
  · rw [form, Nat.mod_eq_of_lt (show c.toNat / 64 < 0x20 by omega)]
    rfl
  split
  · rw [form, Nat.mod_eq_of_lt (show c.toNat / 4096 < 0x10 by omega)]
    rfl
  · rw [form, Nat.mod_eq_of_lt (show c.toNat / 262144 < 0x08 by omega)]
    rfl

/-! ## 2. Characters that are read -/

-- the bytes of the shortest form of a number
theorem utf8EncodeChar_ofNat {n : Nat} (h : n.isValidChar) :
    String.utf8EncodeChar (Char.ofNat n) = form (tails n) n := by
  rw [utf8EncodeChar_eq_form, toNat_charOfNat h]

theorem byte_eq {b : UInt8} {n : Nat} (h : b.toNat = n) : UInt8.ofNat n = b := by
  rw [← h, UInt8.ofNat_toNat]

theorem isSecondOfThree_iff {a b : UInt8} : isSecondOfThree a b = true ↔
    0x80 ≤ b.toNat ∧ b.toNat ≤ 0xBF ∧ (a.toNat = 0xE0 → 0xA0 ≤ b.toNat) ∧
      (a.toNat = 0xED → b.toNat ≤ 0x9F) := by
  by_cases h0 : a = 0xE0
  · subst h0
    simp [isSecondOfThree, UInt8.le_iff_toNat_le]
    omega
  by_cases h1 : a = 0xED
  · subst h1
    simp [isSecondOfThree, UInt8.le_iff_toNat_le]
    omega
  · have hn0 : a.toNat ≠ 0xE0 := fun h => h0 (UInt8.toNat_inj.mp h)
    have hn1 : a.toNat ≠ 0xED := fun h => h1 (UInt8.toNat_inj.mp h)
    simp [isSecondOfThree, isTail_iff, h0, h1, hn0, hn1]

theorem isSecondOfFour_iff {a b : UInt8} : isSecondOfFour a b = true ↔
    0x80 ≤ b.toNat ∧ b.toNat ≤ 0xBF ∧ (a.toNat = 0xF0 → 0x90 ≤ b.toNat) ∧
      (a.toNat = 0xF4 → b.toNat ≤ 0x8F) := by
  by_cases h0 : a = 0xF0
  · subst h0
    simp [isSecondOfFour, UInt8.le_iff_toNat_le]
    omega
  by_cases h1 : a = 0xF4
  · subst h1
    simp [isSecondOfFour, UInt8.le_iff_toNat_le]
    omega
  · have hn0 : a.toNat ≠ 0xF0 := fun h => h0 (UInt8.toNat_inj.mp h)
    have hn1 : a.toNat ≠ 0xF4 := fun h => h1 (UInt8.toNat_inj.mp h)
    simp [isSecondOfFour, isTail_iff, h0, h1, hn0, hn1]

theorem encode_one {a : UInt8} (ha : a < 0x80) :
    String.utf8EncodeChar (Char.ofNat a.toNat) = [a] := by
  rw [UInt8.lt_iff_toNat_lt] at ha
  have ha' : a.toNat < 0x80 := ha
  rw [utf8EncodeChar_ofNat (.inl (by omega)), tails, if_pos ha', form, UInt8.ofNat_toNat]

theorem encode_two {a b : UInt8} (ha : 0xC2 ≤ a.toNat ∧ a.toNat ≤ 0xDF) (hb : isTail b = true) :
    String.utf8EncodeChar (twoBytes a b) = [a, b] := by
  rw [isTail_iff] at hb
  obtain ⟨x, hx⟩ := Nat.exists_eq_add_of_le' (Nat.le_trans (by decide : 0xC0 ≤ 0xC2) ha.1)
  obtain ⟨y, hy⟩ := Nat.exists_eq_add_of_le' hb.1
  have hsextet : y < 64 := by omega
  have htails : tails (x * 64 + y) = 1 := by
    rw [tails, if_neg (by omega), if_pos (by omega)]
  rw [twoBytes, hx, hy, Nat.add_sub_cancel, Nat.add_sub_cancel,
    utf8EncodeChar_ofNat (.inl (by omega)), htails, form_one x hsextet, byte_eq hx, byte_eq hy]

theorem encode_three {a b c : UInt8} (ha : 0xE0 ≤ a.toNat ∧ a.toNat ≤ 0xEF)
    (hb : isSecondOfThree a b = true) (hc : isTail c = true) :
    String.utf8EncodeChar (threeBytes a b c) = [a, b, c] := by
  rw [isSecondOfThree_iff] at hb
  rw [isTail_iff] at hc
  obtain ⟨x, hx⟩ := Nat.exists_eq_add_of_le' ha.1
  obtain ⟨y, hy⟩ := Nat.exists_eq_add_of_le' hb.1
  obtain ⟨z, hz⟩ := Nat.exists_eq_add_of_le' hc.1
  have hsextets : y < 64 ∧ z < 64 := by omega
  have hbounds : 0x800 ≤ (x * 64 + y) * 64 + z ∧ (x * 64 + y) * 64 + z < 0x10000 := by omega
  have htails : tails ((x * 64 + y) * 64 + z) = 2 := by
    have hlow := Nat.not_lt.mpr hbounds.1
    rw [tails, if_neg fun h => hlow (Nat.lt_trans h (by decide)), if_neg hlow, if_pos hbounds.2]
  -- the second byte leaves no room for a surrogate
  have hvalid : ((x * 64 + y) * 64 + z).isValidChar := by
    show (x * 64 + y) * 64 + z < 0xD800 ∨
      0xDFFF < (x * 64 + y) * 64 + z ∧ (x * 64 + y) * 64 + z < 0x110000
    omega
  rw [threeBytes, hx, hy, hz, Nat.add_sub_cancel, Nat.add_sub_cancel, Nat.add_sub_cancel,
    utf8EncodeChar_ofNat hvalid, htails, form_two x hsextets.1 hsextets.2, byte_eq hx, byte_eq hy,
    byte_eq hz]

theorem encode_four {a b c d : UInt8} (ha : 0xF0 ≤ a.toNat ∧ a.toNat ≤ 0xF4)
    (hb : isSecondOfFour a b = true) (hc : isTail c = true) (hd : isTail d = true) :
    String.utf8EncodeChar (fourBytes a b c d) = [a, b, c, d] := by
  rw [isSecondOfFour_iff] at hb
  rw [isTail_iff] at hc hd
  obtain ⟨x, hx⟩ := Nat.exists_eq_add_of_le' ha.1
  obtain ⟨y, hy⟩ := Nat.exists_eq_add_of_le' hb.1
  obtain ⟨z, hz⟩ := Nat.exists_eq_add_of_le' hc.1
  obtain ⟨w, hw⟩ := Nat.exists_eq_add_of_le' hd.1
  have hsextets : y < 64 ∧ z < 64 ∧ w < 64 := by omega
  have hbounds : 0x10000 ≤ ((x * 64 + y) * 64 + z) * 64 + w ∧
      ((x * 64 + y) * 64 + z) * 64 + w < 0x110000 := by
    omega
  have htails : tails (((x * 64 + y) * 64 + z) * 64 + w) = 3 := by
    have hlow := Nat.not_lt.mpr hbounds.1
    rw [tails, if_neg fun h => hlow (Nat.lt_trans h (by decide)),
      if_neg fun h => hlow (Nat.lt_trans h (by decide)), if_neg hlow]
  have hvalid : (((x * 64 + y) * 64 + z) * 64 + w).isValidChar :=
    .inr ⟨Nat.lt_of_lt_of_le (by decide) hbounds.1, hbounds.2⟩
  rw [fourBytes, hx, hy, hz, hw, Nat.add_sub_cancel, Nat.add_sub_cancel, Nat.add_sub_cancel,
    Nat.add_sub_cancel, utf8EncodeChar_ofNat hvalid, htails,
    form_three x hsextets.1 hsextets.2.1 hsextets.2.2, byte_eq hx, byte_eq hy, byte_eq hz,
    byte_eq hw]

/-! ## 3. The first piece -/

def Piece.isChar : Piece → Bool
  | .char _ => true
  | _ => false

/-- The bytes begin with something that is no character. -/
def IsBroken (bs : List UInt8) : Prop := ∃ p ps, pieces bs = p :: ps ∧ p.isChar = false

theorem isLead_iff {a lo hi : UInt8} :
    (lo ≤ a && a ≤ hi) = true ↔ lo.toNat ≤ a.toNat ∧ a.toNat ≤ hi.toNat := by
  simp [UInt8.le_iff_toNat_le]

theorem not_isLead {a lo hi : UInt8} (h : hi.toNat < a.toNat) : ¬(lo ≤ a && a ≤ hi) = true := by
  rw [isLead_iff]
  omega

theorem not_isLow {a : UInt8} (h : 0x80 ≤ a.toNat) : ¬a < 0x80 := by
  rw [UInt8.lt_iff_toNat_lt]
  exact Nat.not_lt.mpr h

theorem pieces_cases (bs : List UInt8) :
    bs = [] ∨ IsBroken bs ∨
      ∃ c rest, bs = String.utf8EncodeChar c ++ rest ∧ pieces bs = .char c :: pieces rest := by
  unfold IsBroken
  fun_cases pieces bs
  case case1 => exact .inl rfl
  case case2 a r ha =>
    exact .inr (.inr ⟨_, r, by rw [encode_one ha]; rfl, rfl⟩)
  case case4 a _ ha b r hb =>
    exact .inr (.inr ⟨_, r, by rw [encode_two (isLead_iff.mp ha) hb]; rfl, rfl⟩)
  case case8 a _ _ ha b hb c r hc =>
    exact .inr (.inr ⟨_, r, by rw [encode_three (isLead_iff.mp ha) hb hc]; rfl, rfl⟩)
  case case14 a _ _ _ ha b hb c hc d r hd =>
    exact .inr (.inr ⟨_, r, by rw [encode_four (isLead_iff.mp ha) hb hc hd]; rfl, rfl⟩)
  all_goals exact .inr (.inl ⟨_, _, rfl, rfl⟩)

theorem pieces_one {a : UInt8} (r : List UInt8) (ha : a.toNat < 0x80) :
    pieces (a :: r) = .char (Char.ofNat a.toNat) :: pieces r := by
  rw [pieces.eq_def]
  exact if_pos (UInt8.lt_iff_toNat_lt.mpr ha)

theorem pieces_two {a b : UInt8} (r : List UInt8) (ha : 0xC2 ≤ a.toNat ∧ a.toNat ≤ 0xDF)
    (hb : isTail b = true) : pieces (a :: b :: r) = .char (twoBytes a b) :: pieces r := by
  have h0 : ¬a < 0x80 := not_isLow (Nat.le_trans (by decide) ha.1)
  have h1 : (0xC2 ≤ a && a ≤ 0xDF) = true := isLead_iff.mpr ha
  rw [pieces.eq_def]
  simp only [if_neg h0, if_pos h1, if_pos hb]

theorem pieces_three {a b c : UInt8} (r : List UInt8) (ha : 0xE0 ≤ a.toNat ∧ a.toNat ≤ 0xEF)
    (hb : isSecondOfThree a b = true) (hc : isTail c = true) :
    pieces (a :: b :: c :: r) = .char (threeBytes a b c) :: pieces r := by
  have h0 : ¬a < 0x80 := not_isLow (Nat.le_trans (by decide) ha.1)
  have h1 : ¬(0xC2 ≤ a && a ≤ 0xDF) = true := not_isLead (Nat.lt_of_lt_of_le (by decide) ha.1)
  have h2 : (0xE0 ≤ a && a ≤ 0xEF) = true := isLead_iff.mpr ha
  rw [pieces.eq_def]
  simp only [if_neg h0, if_neg h1, if_pos h2, if_pos hb, if_pos hc]

theorem pieces_four {a b c d : UInt8} (r : List UInt8) (ha : 0xF0 ≤ a.toNat ∧ a.toNat ≤ 0xF4)
    (hb : isSecondOfFour a b = true) (hc : isTail c = true) (hd : isTail d = true) :
    pieces (a :: b :: c :: d :: r) = .char (fourBytes a b c d) :: pieces r := by
  have h0 : ¬a < 0x80 := not_isLow (Nat.le_trans (by decide) ha.1)
  have h1 : ¬(0xC2 ≤ a && a ≤ 0xDF) = true := not_isLead (Nat.lt_of_lt_of_le (by decide) ha.1)
  have h2 : ¬(0xE0 ≤ a && a ≤ 0xEF) = true := not_isLead (Nat.lt_of_lt_of_le (by decide) ha.1)
  have h3 : (0xF0 ≤ a && a ≤ 0xF4) = true := isLead_iff.mpr ha
  rw [pieces.eq_def]
  simp only [if_neg h0, if_neg h1, if_neg h2, if_pos h3, if_pos hb, if_pos hc, if_pos hd]

/-- A legal form is read as its character, whatever follows it. -/
theorem pieces_encode (c : Char) (r : List UInt8) :
    pieces (String.utf8EncodeChar c ++ r) = .char c :: pieces r := by
  have hv : c.toNat < 0xD800 ∨ 0xDFFF < c.toNat ∧ c.toNat < 0x110000 := c.valid
  rw [utf8EncodeChar_eq_form]
  conv => rhs; rw [← Char.ofNat_toNat c]
  generalize c.toNat = n at hv ⊢
  rw [tails]
  split
  case isTrue h =>
    have ha := toNat_ofNat (n := n) (by omega)
    show pieces (UInt8.ofNat n :: r) = _
    rw [pieces_one r (by omega), ha]
  split
  case isTrue h =>
    have ha := toNat_ofNat (n := n / 64 + 0xC0) (by omega)
    show pieces (_ :: _ :: r) = _
    rw [pieces_two r (by omega) (isTail_tailByte n), twoBytes, ha, toNat_tailByte,
      Nat.add_sub_cancel, Nat.add_sub_cancel, Nat.div_add_mod']
  split
  case isTrue h =>
    have ha := toNat_ofNat (n := n / 4096 + 0xE0) (by omega)
    have hb : isSecondOfThree (UInt8.ofNat (n / 4096 + 0xE0)) (tailByte (n / 64)) = true := by
      rw [isSecondOfThree_iff, ha, toNat_tailByte]
      omega
    show pieces (_ :: _ :: _ :: r) = _
    rw [pieces_three r (by omega) hb (isTail_tailByte n), threeBytes, ha, toNat_tailByte,
      toNat_tailByte, Nat.add_sub_cancel, Nat.add_sub_cancel, Nat.add_sub_cancel, div_4096,
      Nat.div_add_mod', Nat.div_add_mod']
  case isFalse h =>
    have ha := toNat_ofNat (n := n / 262144 + 0xF0) (by omega)
    have hb : isSecondOfFour (UInt8.ofNat (n / 262144 + 0xF0)) (tailByte (n / 4096)) = true := by
      rw [isSecondOfFour_iff, ha, toNat_tailByte]
      omega
    show pieces (_ :: _ :: _ :: _ :: r) = _
    rw [pieces_four r (by omega) hb (isTail_tailByte _) (isTail_tailByte n), fourBytes, ha,
      toNat_tailByte, toNat_tailByte, toNat_tailByte, Nat.add_sub_cancel, Nat.add_sub_cancel,
      Nat.add_sub_cancel, Nat.add_sub_cancel, div_262144, div_4096, Nat.div_add_mod',
      Nat.div_add_mod', Nat.div_add_mod']

/-! ## 4. Whole byte strings -/

@[simp] theorem encode_nil : encode [] = [] := rfl

@[simp] theorem encode_cons (c : Char) (cs : List Char) :
    encode (c :: cs) = String.utf8EncodeChar c ++ encode cs := rfl

theorem pieces_encode_append (cs : List Char) (r : List UInt8) :
    pieces (encode cs ++ r) = cs.map .char ++ pieces r := by
  induction cs with
  | nil => rfl
  | cons c cs ih =>
    rw [encode_cons, List.append_assoc, pieces_encode, ih]
    rfl

theorem join_map_char (index : Nat) (cs : List Char) : join index (cs.map .char) = .ok cs := by
  induction cs generalizing index with
  | nil => rfl
  | cons c cs ih =>
    rw [List.map_cons, join, ih]
    rfl

theorem exists_join_error {p : Piece} (hp : p.isChar = false) (index : Nat) (cs : List Char)
    (ps : List Piece) : ∃ fault, join index (cs.map .char ++ p :: ps) = .error fault := by
  induction cs generalizing index with
  | nil =>
    cases p with
    | char c => exact nomatch hp
    | broken n => exact ⟨_, rfl⟩
    | cut => exact ⟨_, rfl⟩
  | cons c cs ih =>
    obtain ⟨fault, h⟩ := ih (index + c.utf8Size)
    exact ⟨fault, by rw [List.map_cons, List.cons_append, join, h]; rfl⟩

-- the induction is on the bytes left, and every piece read takes at least one of them
theorem eq_encode_of_join {index : Nat} {bs : List UInt8} {cs : List Char}
    (h : join index (pieces bs) = .ok cs) : bs = encode cs := by
  induction hn : bs.length using Nat.strongRecOn generalizing index bs cs with
  | ind n ih =>
    rcases pieces_cases bs with rfl | ⟨p, ps, hps, hp⟩ | ⟨c, rest, rfl, hps⟩
    · rw [pieces] at h
      cases h
      rfl
    · obtain ⟨fault, he⟩ := exists_join_error hp index [] ps
      rw [hps] at h
      cases he.symm.trans h
    · rw [hps, join] at h
      cases hr : join (index + c.utf8Size) (pieces rest) with
      | error fault =>
        rw [hr] at h
        cases h
      | ok ds =>
        rw [hr] at h
        cases h
        have hlt : rest.length < n := by
          rw [← hn, List.length_append, String.length_utf8EncodeChar]
          have := c.utf8Size_pos
          omega
        rw [encode_cons, ← ih rest.length hlt hr rfl]

/-- A byte string is read as a text exactly if it is the encoding of this text. -/
theorem decode_eq_ok_iff {bs : List UInt8} {cs : List Char} :
    decode bs = .ok cs ↔ bs = encode cs := by
  constructor
  · exact eq_encode_of_join
  · rintro rfl
    rw [decode, ← List.append_nil (encode cs), pieces_encode_append, pieces, List.append_nil,
      join_map_char]

theorem encode_injective {cs ds : List Char} (h : encode cs = encode ds) : cs = ds :=
  Except.ok.inj ((decode_eq_ok_iff.mpr rfl).symm.trans (decode_eq_ok_iff.mpr h))

theorem exists_decode_error {bs : List UInt8} (cs : List Char) (h : IsBroken bs) :
    ∃ fault, decode (encode cs ++ bs) = .error fault := by
  obtain ⟨p, ps, hps, hp⟩ := h
  rw [decode, pieces_encode_append, hps]
  exact exists_join_error hp 0 cs ps

/-! ## 5. Forms that are no character -/

/-- A number fits the bits that its form has room for. -/
def Fits (t n : Nat) : Prop :=
  match t with
  | 0 => n < 0x80
  | 1 => n < 0x800
  | 2 => n < 0x10000
  | 3 => n < 0x200000
  | _ => False

theorem fits_tails {n : Nat} (h : n < 0x200000) : Fits (tails n) n := by
  rw [tails]
  split
  · assumption
  split
  · assumption
  split
  · assumption
  · exact h

theorem Fits.of_lt {t n : Nat} (ht : t ≤ 3) (h : tails n < t) : Fits t n := by
  revert h
  rw [tails]
  match t, ht with
  | 0, _ => omega
  | 1, _ => simp only [Fits]; grind
  | 2, _ => simp only [Fits]; grind
  | 3, _ => simp only [Fits]; grind

theorem length_form {t n : Nat} (h : Fits t n) : (form t n).length = t + 1 := by
  match t, h with
  | 0, _ => rfl
  | 1, _ => rfl
  | 2, _ => rfl
  | 3, _ => rfl

-- the number of bytes behind it that a first byte announces
def announced (b : UInt8) : Nat :=
  if b.toNat < 0xC0 then 0 else if b.toNat < 0xE0 then 1 else if b.toNat < 0xF0 then 2 else 3

theorem exists_form_eq_cons {t n : Nat} (h : Fits t n) :
    ∃ b bs, form t n = b :: bs ∧ announced b = t ∧ ∀ x ∈ bs, isTail x = true := by
  match t, h with
  | 0, h =>
    have hb := toNat_ofNat (n := n) (Nat.lt_trans h (by decide))
    have hn : n < 0x80 := h
    refine ⟨_, _, rfl, ?_, fun x hx => nomatch hx⟩
    rw [announced, hb, if_pos (by omega)]
  | 1, h =>
    have hn : n < 0x800 := h
    have hb := toNat_ofNat (n := n / 64 + 0xC0) (by omega)
    refine ⟨_, _, rfl, ?_, by simp [isTail_tailByte]⟩
    rw [announced, hb, if_neg (by omega), if_pos (by omega)]
  | 2, h =>
    have hn : n < 0x10000 := h
    have hb := toNat_ofNat (n := n / 4096 + 0xE0) (by omega)
    refine ⟨_, _, rfl, ?_, by simp [isTail_tailByte]⟩
    rw [announced, hb, if_neg (by omega), if_neg (by omega), if_pos (by omega)]
  | 3, h =>
    have hn : n < 0x200000 := h
    have hb := toNat_ofNat (n := n / 262144 + 0xF0) (by omega)
    refine ⟨_, _, rfl, ?_, by simp [isTail_tailByte]⟩
    rw [announced, hb, if_neg (by omega), if_neg (by omega), if_neg (by omega)]

theorem ofNat_injective {n m : Nat} (hn : n < 0x100) (hm : m < 0x100)
    (h : UInt8.ofNat n = UInt8.ofNat m) : n = m := by
  rw [← toNat_ofNat hn, ← toNat_ofNat hm, h]

theorem tailByte_injective {n m : Nat} (h : tailByte n = tailByte m) : n % 64 = m % 64 := by
  have hbyte := congrArg UInt8.toNat h
  rw [toNat_tailByte, toNat_tailByte] at hbyte
  omega

theorem form_injective {t n m : Nat} (hn : Fits t n) (hm : Fits t m) (h : form t n = form t m) :
    n = m := by
  match t, hn, hm with
  | 0, hn, hm =>
    simp only [Fits, form, List.cons.injEq, and_true] at hn hm h
    exact ofNat_injective (by omega) (by omega) h
  | 1, hn, hm =>
    simp only [Fits, form, List.cons.injEq, and_true] at hn hm h
    have h0 := ofNat_injective (by omega) (by omega) h.1
    have h1 := tailByte_injective h.2
    omega
  | 2, hn, hm =>
    simp only [Fits, form, List.cons.injEq, and_true] at hn hm h
    have h0 := ofNat_injective (by omega) (by omega) h.1
    have h1 := tailByte_injective h.2.1
    have h2 := tailByte_injective h.2.2
    omega
  | 3, hn, hm =>
    simp only [Fits, form, List.cons.injEq, and_true] at hn hm h
    have h0 := ofNat_injective (by omega) (by omega) h.1
    have h1 := tailByte_injective h.2.1
    have h2 := tailByte_injective h.2.2.1
    have h3 := tailByte_injective h.2.2.2
    omega

/-- The first byte of a form announces how long it is, so two forms at the front of the same bytes
are one form. -/
theorem form_append_inj {t u n m : Nat} {r l : List UInt8} (hn : Fits t n) (hm : Fits u m)
    (h : form t n ++ r = form u m ++ l) : t = u ∧ n = m := by
  obtain ⟨a, as, ha, hat, -⟩ := exists_form_eq_cons hn
  obtain ⟨b, bs, hb, hbu, -⟩ := exists_form_eq_cons hm
  have htu : t = u := by
    rw [ha, hb, List.cons_append, List.cons_append, List.cons.injEq] at h
    rw [← hat, ← hbu, h.1]
  subst htu
  have hlen : (form t n).length = (form t m).length := by
    rw [length_form hn, length_form hm]
  exact ⟨rfl, form_injective hn hm (List.append_inj h hlen).1⟩

/-- Bytes that stand where a character should, with what follows them, and are none. -/
inductive IllFormed : List UInt8 → List UInt8 → Prop
  -- a form with more bytes than the shortest one
  | overlong {t n : Nat} {rest : List UInt8} (ht : t ≤ 3) (hn : tails n < t) :
    IllFormed (form t n) rest
  -- one half of a pair of UTF-16
  | surrogate {n : Nat} {rest : List UInt8} (h : 0xD800 ≤ n ∧ n ≤ 0xDFFF) :
    IllFormed (form 2 n) rest
  | tooLarge {n : Nat} {rest : List UInt8} (h : 0x10FFFF < n ∧ n < 0x200000) :
    IllFormed (form 3 n) rest
  -- a character that breaks off, at the end of the bytes or before a byte that is not one of its
  -- own
  | truncated {c : Char} {k : Nat} {rest : List UInt8} (h0 : 0 < k)
      (hk : k < (String.utf8EncodeChar c).length) (hrest : ∀ b ∈ rest.head?, isTail b = false) :
    IllFormed ((String.utf8EncodeChar c).take k) rest

theorem fits_toNat (c : Char) : Fits (tails c.toNat) c.toNat :=
  fits_tails (Nat.lt_trans (toNat_lt c) (by decide))

theorem form_ne_encode {t n : Nat} (hn : Fits t n) (h : t ≠ tails n ∨ ¬n.isValidChar) (c : Char)
    (rest l : List UInt8) : form t n ++ rest ≠ String.utf8EncodeChar c ++ l := by
  intro he
  rw [utf8EncodeChar_eq_form] at he
  obtain ⟨htu, hnm⟩ := form_append_inj hn (fits_toNat c) he
  rcases h with h | h
  · exact h (hnm ▸ htu)
  · exact h (hnm ▸ c.valid)

-- Both characters announce the same number of bytes, and one that is announced is missing.
theorem take_append_ne_encode {d : Char} {k : Nat} {rest : List UInt8} (h0 : 0 < k)
    (hk : k < (String.utf8EncodeChar d).length) (hrest : ∀ b ∈ rest.head?, isTail b = false)
    (c : Char) (l : List UInt8) :
    (String.utf8EncodeChar d).take k ++ rest ≠ String.utf8EncodeChar c ++ l := by
  intro he
  obtain ⟨a, as, ha, hat, -⟩ := exists_form_eq_cons (fits_toNat d)
  obtain ⟨b, bs, hb, hbt, hbs⟩ := exists_form_eq_cons (fits_toNat c)
  have hlen := length_form (fits_toNat d)
  have hlen' := length_form (fits_toNat c)
  rw [ha, List.length_cons] at hlen
  rw [hb, List.length_cons] at hlen'
  rw [utf8EncodeChar_eq_form, ha, List.length_cons] at hk
  rw [utf8EncodeChar_eq_form, utf8EncodeChar_eq_form, ha, hb] at he
  obtain ⟨j, rfl⟩ : ∃ j, k = j + 1 := ⟨k - 1, by omega⟩
  rw [List.take_succ_cons, List.cons_append, List.cons_append, List.cons.injEq] at he
  have htails : tails d.toNat = tails c.toNat := by
    rw [← hat, ← hbt, he.1]
  have hdrop : rest = bs.drop j ++ l :=
    calc rest = (as.take j ++ rest).drop j :=
          (List.drop_left' (by rw [List.length_take]; omega)).symm
      _ = (bs ++ l).drop j := by rw [he.2]
      _ = bs.drop j ++ l := List.drop_append_of_le_length (by omega)
  have hhead : bs[j] ∈ rest.head? := by
    rw [hdrop, List.drop_eq_getElem_cons (by omega)]
    rfl
  have htail := hbs bs[j] (List.getElem_mem (by omega))
  rw [hrest _ hhead] at htail
  exact Bool.false_ne_true htail

theorem not_isValidChar {n : Nat} (h : 0xD800 ≤ n ∧ n ≤ 0xDFFF ∨ 0x10FFFF < n) :
    ¬n.isValidChar := by
  show ¬(n < 0xD800 ∨ 0xDFFF < n ∧ n < 0x110000)
  omega

theorem IllFormed.ne_encode {front rest : List UInt8} (h : IllFormed front rest) (c : Char)
    (l : List UInt8) : front ++ rest ≠ String.utf8EncodeChar c ++ l := by
  cases h with
  | overlong ht hn =>
    exact form_ne_encode (.of_lt ht hn) (.inl (Nat.ne_of_gt hn)) c rest l
  | @surrogate n _ h =>
    have hfits : Fits 2 n := Nat.lt_of_le_of_lt h.2 (by decide)
    exact form_ne_encode hfits (.inr (not_isValidChar (.inl h))) c rest l
  | @tooLarge n _ h =>
    have hfits : Fits 3 n := h.2
    exact form_ne_encode hfits (.inr (not_isValidChar (.inr h.1))) c rest l
  | truncated h0 hk hrest => exact take_append_ne_encode h0 hk hrest c l

theorem IllFormed.ne_nil {front rest : List UInt8} (h : IllFormed front rest) : front ≠ [] := by
  cases h with
  | overlong ht hn =>
    intro he
    have := length_form (.of_lt ht hn)
    rw [he] at this
    exact nomatch this
  | surrogate h => exact List.cons_ne_nil _ _
  | tooLarge h => exact List.cons_ne_nil _ _
  | @truncated c k _ h0 hk hrest =>
    intro he
    have := congrArg List.length he
    rw [List.length_take, List.length_nil] at this
    omega

theorem IllFormed.isBroken {front rest : List UInt8} (h : IllFormed front rest) :
    IsBroken (front ++ rest) := by
  rcases pieces_cases (front ++ rest) with hnil | hbroken | ⟨c, l, hc, -⟩
  · exact absurd (List.append_eq_nil_iff.mp hnil).1 h.ne_nil
  · exact hbroken
  · exact absurd hc (h.ne_encode c l)

theorem IllFormed.decode_error {front rest : List UInt8} (h : IllFormed front rest)
    (cs : List Char) : ∃ fault, decode (encode cs ++ (front ++ rest)) = .error fault :=
  exists_decode_error cs h.isBroken

end Preflight.Text.Utf8
