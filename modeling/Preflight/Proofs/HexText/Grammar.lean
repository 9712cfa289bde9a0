import Preflight.Proofs.HexText.RoundTrip

/-!
The grammar of hexadecimal texts, pair by pair. A text is read exactly if, between blanks and behind
at most one `0x`, it is pairs of digits of which each denotes one byte; no text has two such
readings, and two texts are read as the same bytes exactly if their digits differ in case only.
-/

namespace Preflight.HexText

open Text (AllBlank isBlank)
open Text.Hex (IsDigit IsFramed Denotes value? digit)

/-! ## 1. Pairs of digits -/

/-- The digits in the order of their values. -/
def alphabet : List Char :=
  ['0', '1', '2', '3', '4', '5', '6', '7', '8', '9', 'a', 'b', 'c', 'd', 'e', 'f']

/-- The two digits, of either case, denote the byte, the high one first. -/
def IsPair (high low : Char) (b : UInt8) : Prop :=
  alphabet[b.toNat / 16]? = some high.toLower ∧ alphabet[b.toNat % 16]? = some low.toLower

theorem alphabet_eq_digit : ∀ n : Fin 16, alphabet[n.val]? = some (digit n) := by
  decide

theorem alphabet_eq_some_iff {c : Char} {n : Nat} (hn : n < 16) :
    alphabet[n]? = some c.toLower ↔ value? c = some n := by
  rw [alphabet_eq_digit ⟨n, hn⟩, Text.Hex.value?_eq_some_iff hn, Option.some.injEq, eq_comm]

theorem isPair_iff {high low : Char} {b : UInt8} : IsPair high low b ↔
    value? high = some (b.toNat / 16) ∧ value? low = some (b.toNat % 16) := by
  have hb : b.toNat < 256 := b.toNat_lt
  rw [IsPair, alphabet_eq_some_iff (by omega), alphabet_eq_some_iff (by omega)]

/-- The digits are as many pairs as there are bytes, and the pair at each index denotes the byte at
this index. -/
structure ArePairs (ds : List Char) (bs : List UInt8) : Prop where
  length : ds.length = 2 * bs.length
  pair : ∀ i b, bs[i]? = some b → ∃ high low, ds[2 * i]? = some high ∧ ds[2 * i + 1]? = some low ∧
    IsPair high low b

theorem arePairs_nil : ArePairs [] [] where
  length := rfl
  pair i b h := by simp at h

theorem arePairs_cons {high low : Char} {ds : List Char} {b : UInt8} {bs : List UInt8} :
    ArePairs (high :: low :: ds) (b :: bs) ↔ IsPair high low b ∧ ArePairs ds bs := by
  constructor
  · rintro ⟨hlen, hpair⟩
    simp only [List.length_cons] at hlen
    refine ⟨?_, by omega, fun i b' hb' => hpair (i + 1) b' hb'⟩
    obtain ⟨high', low', hhigh, hlow, h⟩ := hpair 0 b rfl
    cases hhigh
    cases hlow
    exact h
  · rintro ⟨h, hlen, hpair⟩
    refine ⟨by simp only [List.length_cons]; omega, fun i b' hb' => ?_⟩
    match i, hb' with
    | 0, hb' =>
      cases hb'
      exact ⟨high, low, rfl, rfl, h⟩
    | i + 1, hb' => exact hpair i b' hb'

/-- Digits that are read in pairs denote the bytes pair by pair. -/
theorem denotes_iff_arePairs {ds : List Char} {bs : List UInt8} :
    Denotes ds bs ↔ ArePairs ds bs := by
  constructor
  · intro h
    induction h with
    | nil => exact arePairs_nil
    | @pair high low n m ds bs hn hm h ih =>
      have hn' := Text.Hex.value?_lt hn
      have hm' := Text.Hex.value?_lt hm
      have hbyte : (UInt8.ofNat (n * 16 + m)).toNat = n * 16 + m :=
        Text.Utf8.toNat_ofNat (by omega)
      rw [arePairs_cons, isPair_iff, hbyte, show (n * 16 + m) / 16 = n by omega,
        show (n * 16 + m) % 16 = m by omega]
      exact ⟨⟨hn, hm⟩, ih⟩
  · intro h
    induction bs generalizing ds with
    | nil =>
      rw [List.eq_nil_of_length_eq_zero h.length]
      exact .nil
    | cons b bs ih =>
      match ds, h with
      | [], h => exact nomatch h.length
      | [c], h =>
        have hlen := h.length
        simp only [List.length_cons, List.length_nil] at hlen
        omega
      | high :: low :: ds, h =>
        obtain ⟨hpair, h⟩ := arePairs_cons.mp h
        obtain ⟨hhigh, hlow⟩ := isPair_iff.mp hpair
        have hb : b.toNat < 256 := b.toNat_lt
        have hbyte : UInt8.ofNat (b.toNat / 16 * 16 + b.toNat % 16) = b :=
          Text.Utf8.byte_eq (by omega)
        rw [← hbyte]
        exact .pair hhigh hlow (ih h)

/-! ## 2. Readings -/

/-- A reading of a text: blanks, the mark `0x` or no mark, pairs of digits for the bytes, and blanks
again. -/
structure IsReading (cs mark ds : List Char) (bs : List UInt8) : Prop where
  isMark : mark = [] ∨ mark = ['0', 'x']
  framed : ∃ before after, AllBlank before ∧ AllBlank after ∧ cs = before ++ (mark ++ ds) ++ after
  pairs : ArePairs ds bs

namespace IsReading

variable {cs mark ds : List Char} {bs : List UInt8}

theorem isFramed (h : IsReading cs mark ds bs) : IsFramed ds cs := by
  obtain ⟨before, after, hbefore, hafter, hcs⟩ := h.framed
  exact ⟨before, mark, after, hbefore, hafter, h.isMark, hcs⟩

theorem denotes (h : IsReading cs mark ds bs) : Denotes ds bs :=
  denotes_iff_arePairs.mpr h.pairs

theorem digit_or_mark (h : IsReading cs mark ds bs) : ∀ c ∈ mark ++ ds, IsDigit c ∨ c = 'x' := by
  intro c hc
  rcases List.mem_append.mp hc with hc | hc
  · rcases h.isMark with hmark | hmark
    · rw [hmark] at hc
      exact nomatch hc
    · rw [hmark, List.mem_cons, List.mem_singleton] at hc
      rcases hc with rfl | rfl
      · exact .inl (.inl (by decide))
      · exact .inr rfl
  · exact .inl (h.denotes.isDigit c hc)

theorem not_blank (h : IsReading cs mark ds bs) : ∀ c ∈ mark ++ ds, isBlank c = false := by
  intro c hc
  rcases h.digit_or_mark c hc with hdigit | rfl
  · exact hdigit.not_blank
  · decide

theorem trim_eq (h : IsReading cs mark ds bs) : Text.trim cs = mark ++ ds := by
  obtain ⟨before, after, hbefore, hafter, rfl⟩ := h.framed
  exact Text.trim_of_isTrimmed hbefore hafter (Text.isTrimmed_of_forall h.not_blank)

theorem digits_eq (h : IsReading cs mark ds bs) : Text.Hex.stripMark (Text.trim cs) = ds :=
  h.isFramed.stripMark_eq h.denotes.isDigit

/-- A text has at most one reading, so the one with a mark and the one without exclude each
other. -/
theorem unique {mark' ds' : List Char} {bs' : List UInt8} (h : IsReading cs mark ds bs)
    (h' : IsReading cs mark' ds' bs') : mark = mark' ∧ ds = ds' ∧ bs = bs' := by
  have hds : ds = ds' := h.digits_eq.symm.trans h'.digits_eq
  subst hds
  have hmark : mark ++ ds = mark' ++ ds := h.trim_eq.symm.trans h'.trim_eq
  exact ⟨List.append_cancel_right hmark, rfl, h.denotes.unique h'.denotes⟩

end IsReading

/-- A text is read as bytes exactly if it has a reading as these bytes. -/
theorem parseBytes_eq_ok_iff_reading {s : String} {bs : List UInt8} :
    parseBytes s = .ok bs ↔ ∃ mark ds, IsReading s.toList mark ds bs := by
  rw [parseBytes_eq_ok_iff]
  constructor
  · rintro ⟨ds, ⟨before, mark, after, hbefore, hafter, hmark, hs⟩, hds⟩
    exact ⟨mark, ds, hmark, ⟨before, after, hbefore, hafter, hs⟩, denotes_iff_arePairs.mp hds⟩
  · rintro ⟨mark, ds, h⟩
    exact ⟨ds, h.isFramed, h.denotes⟩

theorem exists_parseBytes_error_iff {s : String} :
    (∃ detail, parseBytes s = .error (.hex detail)) ↔
      ¬∃ mark ds bs, IsReading s.toList mark ds bs := by
  have hok : (∃ mark ds bs, IsReading s.toList mark ds bs) ↔ ∃ bs, parseBytes s = .ok bs := by
    simp only [parseBytes_eq_ok_iff_reading]
    exact ⟨fun ⟨mark, ds, bs, h⟩ => ⟨bs, mark, ds, h⟩, fun ⟨bs, mark, ds, h⟩ => ⟨mark, ds, bs, h⟩⟩
  rw [hok]
  rcases parseBytes_cases s with ⟨bs, hbs⟩ | ⟨detail, hfault⟩
  · simp [hbs]
  · simp [hfault]

/-! ## 3. Misspelt texts -/

/-- Ways in which a text without blanks at its ends fails to be hexadecimal. -/
inductive IsMisspelt : List Char → Prop
  | blankInside {cs : List Char} {c : Char} (hc : c ∈ cs) (h : isBlank c = true) : IsMisspelt cs
  | capitalMark (r : List Char) : IsMisspelt ('0' :: 'X' :: r)
  | secondMark (r : List Char) : IsMisspelt ('0' :: 'x' :: '0' :: 'x' :: r)
  | oddLength {cs : List Char} (h : cs.length % 2 = 1) : IsMisspelt cs
  | notAscii {cs : List Char} {c : Char} (hc : c ∈ cs) (h : 0x80 ≤ c.toNat) : IsMisspelt cs

theorem not_isDigit_x : ¬IsDigit 'x' := by
  unfold IsDigit
  decide

theorem not_isDigit_capital_x : ¬IsDigit 'X' := by
  unfold IsDigit
  decide

theorem IsReading.not_misspelt {cs mark ds : List Char} {bs : List UInt8}
    (h : IsReading cs mark ds bs) : ¬IsMisspelt (Text.trim cs) := by
  rw [h.trim_eq]
  intro hbad
  generalize htext : mark ++ ds = text at hbad
  cases hbad with
  | blankInside hc hblank =>
    rw [h.not_blank _ (htext ▸ hc)] at hblank
    exact nomatch hblank
  | capitalMark r =>
    have hX : 'X' ∈ mark ++ ds := htext ▸ by simp
    rcases h.digit_or_mark _ hX with hdigit | hx
    · exact not_isDigit_capital_x hdigit
    · exact absurd hx (by decide)
  | secondMark r =>
    -- whichever mark the reading has, the second `x` is among its digits
    have hx : 'x' ∈ ds := by
      rcases h.isMark with rfl | rfl
      · rw [List.nil_append] at htext
        simp [htext]
      · simp only [List.cons_append, List.nil_append, List.cons.injEq, true_and] at htext
        simp [htext]
    exact not_isDigit_x (h.denotes.isDigit _ hx)
  | oddLength hodd =>
    have hlen := h.denotes.length
    have hmark : mark.length = 0 ∨ mark.length = 2 :=
      h.isMark.imp (congrArg List.length) (congrArg List.length)
    rw [← htext, List.length_append] at hodd
    omega
  | notAscii hc hlarge =>
    rcases h.digit_or_mark _ (htext ▸ hc) with hdigit | rfl
    · exact absurd hlarge (Nat.not_le_of_lt hdigit.toNat_lt)
    · exact absurd hlarge (by decide)

/-! ## 4. The grammar -/

/-- A text is read as bytes exactly if it has a reading as these bytes, and every other text is
refused as no hexadecimal: so are all misspelt ones. A text has one reading at most, with a mark or
without, and two texts that are read are read as the same bytes exactly if their digits are the same
but for their case. -/
theorem parseBytes_grammar :
    (∀ s bs, parseBytes s = .ok bs ↔ ∃ mark ds, IsReading s.toList mark ds bs) ∧
    (∀ s, (∃ detail, parseBytes s = .error (.hex detail)) ↔
      ¬∃ mark ds bs, IsReading s.toList mark ds bs) ∧
    (∀ s, IsMisspelt (Text.trim s.toList) → ∃ detail, parseBytes s = .error (.hex detail)) ∧
    (∀ cs mark ds bs mark' ds' bs', IsReading cs mark ds bs → IsReading cs mark' ds' bs' →
      mark = mark' ∧ ds = ds' ∧ bs = bs') ∧
    (∀ cs mark ds bs cs' mark' ds' bs', IsReading cs mark ds bs → IsReading cs' mark' ds' bs' →
      (bs = bs' ↔ ds.map Char.toLower = ds'.map Char.toLower)) := by
  refine ⟨fun _ _ => parseBytes_eq_ok_iff_reading, fun _ => exists_parseBytes_error_iff, ?_,
    fun _ _ _ _ _ _ _ h h' => h.unique h', ?_⟩
  · intro s hbad
    rw [exists_parseBytes_error_iff]
    rintro ⟨mark, ds, bs, h⟩
    exact h.not_misspelt hbad
  · intro cs mark ds bs cs' mark' ds' bs' h h'
    rw [Text.Hex.denotes_iff.mp h.denotes, Text.Hex.denotes_iff.mp h'.denotes]
    constructor
    · exact congrArg Text.Hex.writeDigits
    · intro heq
      have hds := Text.Hex.denotes_writeDigits bs
      rw [heq] at hds
      exact hds.unique (Text.Hex.denotes_writeDigits bs')

theorem parseBytes_grammar_umlaut :
    IsReading " 0xC3bC\n".toList ['0', 'x'] ['C', '3', 'b', 'C'] [0xC3, 0xBC] ∧
      parseBytes " 0xC3bC\n" = .ok [0xC3, 0xBC] ∧
      IsMisspelt (Text.trim "c3 bc0".toList) ∧
      (∃ detail, parseBytes "c3 bc0" = .error (.hex detail)) := by
  have hbefore : AllBlank [' '] := List.forall_mem_singleton.mpr rfl
  have hafter : AllBlank ['\n'] := List.forall_mem_singleton.mpr rfl
  have hpairs : ArePairs ['C', '3', 'b', 'C'] [0xC3, 0xBC] :=
    arePairs_cons.mpr ⟨⟨rfl, rfl⟩, arePairs_cons.mpr ⟨⟨rfl, rfl⟩, arePairs_nil⟩⟩
  have hreading : IsReading " 0xC3bC\n".toList ['0', 'x'] ['C', '3', 'b', 'C'] [0xC3, 0xBC] :=
    ⟨.inr rfl, ⟨[' '], ['\n'], hbefore, hafter, rfl⟩, hpairs⟩
  have hbad : IsMisspelt (Text.trim "c3 bc0".toList) := by
    have htrim : Text.trim "c3 bc0".toList = ['c', '3', ' ', 'b', 'c', '0'] := by
      decide
    rw [htrim]
    exact .blankInside (c := ' ') (by simp) rfl
  exact ⟨hreading, (parseBytes_grammar.1 _ _).mpr ⟨_, _, hreading⟩, hbad,
    parseBytes_grammar.2.2.1 _ hbad⟩

end Preflight.HexText
