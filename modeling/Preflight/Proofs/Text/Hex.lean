import Preflight.Proofs.Text.Trim
import Preflight.Proofs.Text.Utf8
import Preflight.Text.Hex

/-!
Hexadecimal text, by its grammar: pairs of digits of either case, with an optional `0x` before them
and blanks around the whole. The reader accepts exactly these texts, and what it reads is what is
written in lower case.
-/

namespace Preflight.Text.Hex

/-! ## 1. Digits -/

def IsDigit (c : Char) : Prop :=
  ('0' ≤ c ∧ c ≤ '9') ∨ ('A' ≤ c ∧ c ≤ 'F') ∨ ('a' ≤ c ∧ c ≤ 'f')

theorem isDigit_iff {c : Char} : IsDigit c ↔ ∃ n, value? c = some n := by
  rw [IsDigit, value?]
  split
  case isTrue h => exact ⟨fun _ => ⟨_, rfl⟩, fun _ => .inl h⟩
  split
  case isTrue h => exact ⟨fun _ => ⟨_, rfl⟩, fun _ => .inr (.inl h)⟩
  split
  case isTrue h => exact ⟨fun _ => ⟨_, rfl⟩, fun _ => .inr (.inr h)⟩
  case isFalse h0 h1 h2 =>
    constructor
    · rintro (h | h | h)
      · exact absurd h h0
      · exact absurd h h1
      · exact absurd h h2
    · exact fun h => nomatch h

theorem IsDigit.toNat_range {c : Char} (h : IsDigit c) :
    (0x30 ≤ c.toNat ∧ c.toNat ≤ 0x39) ∨ (0x41 ≤ c.toNat ∧ c.toNat ≤ 0x46) ∨
      (0x61 ≤ c.toNat ∧ c.toNat ≤ 0x66) := by
  have hle : ∀ {a b : Char}, a ≤ b → a.toNat ≤ b.toNat := fun hab => UInt32.le_iff_toNat_le.mp hab
  rcases h with h | h | h
  · exact .inl ⟨hle h.1, hle h.2⟩
  · exact .inr (.inl ⟨hle h.1, hle h.2⟩)
  · exact .inr (.inr ⟨hle h.1, hle h.2⟩)

theorem IsDigit.toNat_lt {c : Char} (h : IsDigit c) : c.toNat < 0x80 := by
  have hrange := h.toNat_range
  omega

theorem IsDigit.not_blank {c : Char} (h : IsDigit c) : isBlank c = false := by
  have hrange := h.toNat_range
  refine eq_false_of_ne_true fun hblank => ?_
  simp only [isBlank, Bool.or_eq_true, Bool.and_eq_true, decide_eq_true_eq, beq_iff_eq] at hblank
  omega

-- Characters outside ASCII are their own lower-case forms.
theorem toLower_of_not_ascii {c : Char} (hc : ¬ c.toNat < 0x80) : c.toLower = c := by
  refine dif_neg ?_
  rintro ⟨-, hle⟩
  exact hc (Nat.lt_of_le_of_lt (UInt32.le_iff_toNat_le.mp hle) (by decide))

theorem value?_digit : ∀ n : Fin 16, value? (digit n) = some n.val := by
  decide

theorem value?_toLower_ascii : ∀ k : Fin 128,
    value? (Char.ofNat k).toLower = value? (Char.ofNat k) := by
  decide +kernel

theorem value?_ascii : ∀ k : Fin 128, ∀ n ∈ value? (Char.ofNat k),
    n < 16 ∧ (Char.ofNat k).toLower = digit n := by
  decide +kernel

theorem toNat_lt_of_value? {c : Char} {n : Nat} (h : value? c = some n) : c.toNat < 0x80 :=
  IsDigit.toNat_lt (isDigit_iff.mpr ⟨n, h⟩)

theorem value?_lt {c : Char} {n : Nat} (h : value? c = some n) : n < 16 := by
  have hascii := value?_ascii ⟨c.toNat, toNat_lt_of_value? h⟩ n
  rw [Char.ofNat_toNat] at hascii
  exact (hascii h).1

theorem toNat_digit : ∀ n : Fin 16, (digit n).toNat < 0x80 := by
  decide

/-- A digit has a value exactly if its lower-case form is the digit written for this value. -/
theorem value?_eq_some_iff {c : Char} {n : Nat} (hn : n < 16) :
    value? c = some n ↔ c.toLower = digit n := by
  by_cases hc : c.toNat < 0x80
  · have hvalue := value?_ascii ⟨c.toNat, hc⟩ n
    have hlower := value?_toLower_ascii ⟨c.toNat, hc⟩
    rw [Char.ofNat_toNat] at hvalue hlower
    constructor
    · exact fun h => (hvalue h).2
    · intro h
      rw [← hlower, h]
      exact value?_digit ⟨n, hn⟩
  · constructor
    · intro h
      exact absurd (toNat_lt_of_value? h) hc
    · intro h
      rw [toLower_of_not_ascii hc] at h
      exact absurd (h ▸ toNat_digit ⟨n, hn⟩) hc

/-! ## 2. Digits and the bytes they denote -/

/-- The digits denote the bytes, two digits a byte and the high one first. -/
inductive Denotes : List Char → List UInt8 → Prop
  | nil : Denotes [] []
  | pair {high low : Char} {n m : Nat} {ds : List Char} {bs : List UInt8}
      (hn : value? high = some n) (hm : value? low = some m) (h : Denotes ds bs) :
    Denotes (high :: low :: ds) (UInt8.ofNat (n * 16 + m) :: bs)

theorem Denotes.isDigit {ds : List Char} {bs : List UInt8} (h : Denotes ds bs) :
    ∀ c ∈ ds, IsDigit c := by
  induction h with
  | nil => exact fun c hc => nomatch hc
  | @pair high low n m ds bs hn hm h ih =>
    intro c hc
    rcases List.mem_cons.mp hc with rfl | hc
    · exact isDigit_iff.mpr ⟨n, hn⟩
    rcases List.mem_cons.mp hc with rfl | hc
    · exact isDigit_iff.mpr ⟨m, hm⟩
    · exact ih c hc

theorem Denotes.length {ds : List Char} {bs : List UInt8} (h : Denotes ds bs) :
    ds.length = 2 * bs.length := by
  induction h with
  | nil => rfl
  | pair hn hm h ih =>
    simp only [List.length_cons, ih]
    omega

theorem exists_denotes_iff {ds : List Char} :
    (∃ bs, Denotes ds bs) ↔ 2 ∣ ds.length ∧ ∀ c ∈ ds, IsDigit c := by
  constructor
  · rintro ⟨bs, h⟩
    exact ⟨⟨bs.length, h.length⟩, h.isDigit⟩
  · rintro ⟨⟨k, hk⟩, hds⟩
    induction k generalizing ds with
    | zero =>
      rw [List.eq_nil_of_length_eq_zero hk]
      exact ⟨[], .nil⟩
    | succ k ih =>
      match ds, hk with
      | high :: low :: ds, hk =>
        obtain ⟨n, hn⟩ := isDigit_iff.mp (hds high (by simp))
        obtain ⟨m, hm⟩ := isDigit_iff.mp (hds low (by simp))
        have hlen : ds.length = 2 * k := by
          simp only [List.length_cons] at hk
          omega
        obtain ⟨bs, h⟩ := ih (fun c hc => hds c (by simp [hc])) hlen
        exact ⟨_, .pair hn hm h⟩

/-- Digits denote the bytes for which their lower-case forms are written. -/
theorem denotes_iff {ds : List Char} {bs : List UInt8} :
    Denotes ds bs ↔ ds.map Char.toLower = writeDigits bs := by
  constructor
  · intro h
    induction h with
    | nil => rfl
    | @pair high low n m ds bs hn hm h ih =>
      have hn' := value?_lt hn
      have hm' := value?_lt hm
      have hbyte : (UInt8.ofNat (n * 16 + m)).toNat = n * 16 + m := Utf8.toNat_ofNat (by omega)
      rw [writeDigits, List.flatMap_cons, hbyte, ← writeDigits, ← ih, List.map_cons, List.map_cons,
        (value?_eq_some_iff hn').mp hn, (value?_eq_some_iff hm').mp hm,
        show (n * 16 + m) / 16 = n by omega, show (n * 16 + m) % 16 = m by omega]
      rfl
  · intro h
    induction bs generalizing ds with
    | nil =>
      rw [List.map_eq_nil_iff.mp h]
      exact .nil
    | cons b bs ih =>
      have hb : b.toNat < 256 := b.toNat_lt
      rw [writeDigits, List.flatMap_cons] at h
      match ds, h with
      | [c], h => exact nomatch (List.cons.inj h).2
      | high :: low :: ds, h =>
        simp only [List.map_cons, List.cons_append, List.nil_append, List.cons.injEq] at h
        obtain ⟨hhigh, hlow, hds⟩ := h
        have hn := (value?_eq_some_iff (by omega)).mpr hhigh
        have hm := (value?_eq_some_iff (by omega)).mpr hlow
        have hbyte : UInt8.ofNat (b.toNat / 16 * 16 + b.toNat % 16) = b :=
          Utf8.byte_eq (by omega)
        rw [← hbyte]
        exact .pair hn hm (ih hds)

/-- Written digits denote the bytes that they are written for. -/
theorem denotes_writeDigits (bs : List UInt8) : Denotes (writeDigits bs) bs := by
  induction bs with
  | nil => exact .nil
  | cons b bs ih =>
    have hb : b.toNat < 256 := b.toNat_lt
    have hbyte : UInt8.ofNat (b.toNat / 16 * 16 + b.toNat % 16) = b := Utf8.byte_eq (by omega)
    have hpair := Denotes.pair (value?_digit ⟨b.toNat / 16, by omega⟩)
      (value?_digit ⟨b.toNat % 16, by omega⟩) ih
    rw [hbyte] at hpair
    exact hpair

/-! ## 3. Reading digits -/

theorem encode_digit {c : Char} (h : c.toNat < 0x80) :
    String.utf8EncodeChar c = [UInt8.ofNat c.toNat] := by
  rw [Utf8.utf8EncodeChar_eq_form, Utf8.tails, if_pos h]
  rfl

theorem nibble?_of_value? {c : Char} {n : Nat} (h : value? c = some n) :
    nibble? (UInt8.ofNat c.toNat) = some n := by
  rw [nibble?, Utf8.toNat_ofNat (Nat.lt_trans (toNat_lt_of_value? h) (by decide)),
    Char.ofNat_toNat, h]

theorem Denotes.length_encode {ds : List Char} {bs : List UInt8} (h : Denotes ds bs) :
    (Utf8.encode ds).length = ds.length := by
  induction h with
  | nil => rfl
  | pair hn hm h ih =>
    rw [Utf8.encode_cons, Utf8.encode_cons, encode_digit (toNat_lt_of_value? hn),
      encode_digit (toNat_lt_of_value? hm), List.length_append, List.length_append, ih]
    simp only [List.length_cons, List.length_nil]
    omega

theorem encode_of_nibble? {b : UInt8} {n : Nat} (h : nibble? b = some n) :
    String.utf8EncodeChar (Char.ofNat b.toNat) = [b] := by
  have hb : (Char.ofNat b.toNat).toNat = b.toNat :=
    Utf8.toNat_charOfNat (.inl (Nat.lt_trans b.toNat_lt (by decide)))
  rw [encode_digit (toNat_lt_of_value? h), hb, UInt8.ofNat_toNat]

theorem digitAt_eq_ok_iff {b : UInt8} {index n : Nat} :
    digitAt b index = .ok n ↔ nibble? b = some n := by
  rw [digitAt]
  cases nibble? b <;> simp

/-- Pairs are read from the encodings of digits only. -/
theorem readPairs_eq_ok_iff {index : Nat} {bs out : List UInt8} :
    readPairs index bs = .ok out ↔ ∃ ds, Denotes ds out ∧ bs = Utf8.encode ds := by
  constructor
  · intro h
    induction index, bs using readPairs.induct generalizing out with
    | case1 index =>
      rw [readPairs] at h
      cases h
      exact ⟨[], .nil, rfl⟩
    | case2 index b => exact nomatch h
    | case3 index a b r ih =>
      rw [readPairs] at h
      cases ha : digitAt a index with
      | error e => rw [ha] at h; exact nomatch h
      | ok n =>
        cases hb : digitAt b (index + 1) with
        | error e => rw [ha, hb] at h; exact nomatch h
        | ok m =>
          cases hr : readPairs (index + 2) r with
          | error e => rw [ha, hb, hr] at h; exact nomatch h
          | ok rest =>
            rw [ha, hb, hr] at h
            cases h
            obtain ⟨ds, hds, rfl⟩ := ih hr
            have hn := digitAt_eq_ok_iff.mp ha
            have hm := digitAt_eq_ok_iff.mp hb
            refine ⟨_, .pair hn hm hds, ?_⟩
            rw [Utf8.encode_cons, Utf8.encode_cons, encode_of_nibble? hn, encode_of_nibble? hm]
            rfl
  · rintro ⟨ds, h, rfl⟩
    induction h generalizing index with
    | nil => rfl
    | @pair high low n m ds bs hn hm h ih =>
      rw [Utf8.encode_cons, Utf8.encode_cons, encode_digit (toNat_lt_of_value? hn),
        encode_digit (toNat_lt_of_value? hm)]
      show readPairs index (_ :: _ :: Utf8.encode ds) = _
      rw [readPairs, digitAt_eq_ok_iff.mpr (nibble?_of_value? hn),
        digitAt_eq_ok_iff.mpr (nibble?_of_value? hm), ih]
      rfl

theorem length_of_readPairs {index : Nat} {bs out : List UInt8}
    (h : readPairs index bs = .ok out) : bs.length = 2 * out.length := by
  obtain ⟨ds, hds, rfl⟩ := readPairs_eq_ok_iff.mp h
  rw [hds.length_encode, hds.length]

/-- Digits denote one list of bytes at most. -/
theorem Denotes.unique {ds : List Char} {bs bs' : List UInt8} (h : Denotes ds bs)
    (h' : Denotes ds bs') : bs = bs' := by
  have hread := (@readPairs_eq_ok_iff 0 _ _).mpr ⟨ds, h, rfl⟩
  have hread' := (@readPairs_eq_ok_iff 0 _ _).mpr ⟨ds, h', rfl⟩
  exact Except.ok.inj (hread.symm.trans hread')

theorem readDigits_eq_ok_iff {bs out : List UInt8} :
    readDigits bs = .ok out ↔ ∃ ds, Denotes ds out ∧ bs = Utf8.encode ds := by
  rw [← @readPairs_eq_ok_iff 0, readDigits]
  split
  case isFalse => rfl
  case isTrue hodd =>
    constructor
    · exact fun h => nomatch h
    · intro h
      have hlen := length_of_readPairs h
      omega

/-! ## 4. Reading texts -/

/-- The digits, with or without `0x` before them, between two runs of blanks. -/
def IsFramed (ds cs : List Char) : Prop :=
  ∃ before mark after, AllBlank before ∧ AllBlank after ∧ (mark = [] ∨ mark = ['0', 'x']) ∧
    cs = before ++ (mark ++ ds) ++ after

theorem stripMark_of_isDigit {ds : List Char} (h : ∀ c ∈ ds, IsDigit c) : stripMark ds = ds := by
  fun_cases stripMark ds
  case case1 r =>
    have hx : IsDigit 'x' := h 'x' (by simp)
    exact absurd hx (by unfold IsDigit; decide)
  case case2 => rfl

theorem exists_stripMark (cs : List Char) :
    ∃ mark, (mark = [] ∨ mark = ['0', 'x']) ∧ cs = mark ++ stripMark cs := by
  fun_cases stripMark cs
  case case1 r => exact ⟨['0', 'x'], .inr rfl, rfl⟩
  case case2 => exact ⟨[], .inl rfl, rfl⟩

theorem isFramed_stripMark (cs : List Char) : IsFramed (stripMark (trim cs)) cs := by
  obtain ⟨before, after, hbefore, hafter, hcs⟩ := exists_trim cs
  obtain ⟨mark, hmark, htrim⟩ := exists_stripMark (trim cs)
  exact ⟨before, mark, after, hbefore, hafter, hmark, htrim ▸ hcs⟩

/-- Digits have one frame only: no digit is blank, and none is an `x`. -/
theorem IsFramed.stripMark_eq {ds cs : List Char} (h : IsFramed ds cs)
    (hds : ∀ c ∈ ds, IsDigit c) : stripMark (trim cs) = ds := by
  obtain ⟨before, mark, after, hbefore, hafter, hmark, rfl⟩ := h
  have htrimmed : IsTrimmed (mark ++ ds) := by
    apply isTrimmed_of_forall
    intro c hc
    rcases List.mem_append.mp hc with hc | hc
    · rcases hmark with rfl | rfl
      · exact nomatch hc
      · have hmark : ∀ d ∈ ['0', 'x'], isBlank d = false := by
          simp [isBlank]
        exact hmark c hc
    · exact (hds c hc).not_blank
  rw [trim_of_isTrimmed hbefore hafter htrimmed]
  rcases hmark with rfl | rfl
  · exact stripMark_of_isDigit hds
  · rfl

/-- A text is read as the bytes that its digits denote, and a text that is read has nothing but
digits in its frame. -/
theorem read_eq_ok_iff {cs : List Char} {bs : List UInt8} :
    read cs = .ok bs ↔ ∃ ds, IsFramed ds cs ∧ Denotes ds bs := by
  rw [read, readDigits_eq_ok_iff]
  constructor
  · rintro ⟨ds, hds, he⟩
    exact ⟨ds, Utf8.encode_injective he ▸ isFramed_stripMark cs, hds⟩
  · rintro ⟨ds, hframed, hds⟩
    exact ⟨ds, hds, by rw [hframed.stripMark_eq hds.isDigit]⟩

end Preflight.Text.Hex
