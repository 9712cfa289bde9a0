import Preflight.HexText
import Preflight.Proofs.Text.Hex

/-!
Texts in hexadecimal, there and back. Every text is read back from its hexadecimal form however that
is cased, marked and padded, and whatever is read has this form. A text that is not read is no
hexadecimal, or is one for bytes that encode no text; which of the two it is shows in the fault.
-/

namespace Preflight.HexText

open Text (AllBlank)
open Text.Hex (IsDigit IsFramed Denotes)
open Text.Utf8 (IllFormed)

/-- Pairs of hexadecimal digits, with or without `0x` before them, between blanks. -/
def IsHexText (s : String) : Prop :=
  ∃ ds, IsFramed ds s.toList ∧ 2 ∣ ds.length ∧ ∀ c ∈ ds, IsDigit c

/-! ## 1. The two codecs -/

theorem toList_encode (t : String) :
    (encode t).toList = '0' :: 'x' :: Text.Hex.writeDigits (Text.Utf8.bytes t) := by
  rw [encode, String.toList_ofList, Text.Hex.write]

theorem ofBytes_eq_ok_iff {bs : List UInt8} {t : String} :
    ofBytes bs = .ok t ↔ bs = Text.Utf8.bytes t := by
  rw [ofBytes, Text.Utf8.bytes, ← Text.Utf8.decode_eq_ok_iff]
  cases Text.Utf8.decode bs with
  | error e => simp
  | ok cs =>
    rw [Except.ok.injEq, Except.ok.injEq]
    constructor
    · rintro rfl
      rw [String.toList_ofList]
    · rintro rfl
      rw [String.ofList_toList]

theorem ofBytes_cases (bs : List UInt8) :
    (∃ t, ofBytes bs = .ok t) ∨ ∃ detail, ofBytes bs = .error (.text detail) := by
  rw [ofBytes]
  cases Text.Utf8.decode bs with
  | error e => exact .inr ⟨_, rfl⟩
  | ok cs => exact .inl ⟨_, rfl⟩

theorem exists_ofBytes_error_iff {bs : List UInt8} :
    (∃ detail, ofBytes bs = .error (.text detail)) ↔ ∀ t, bs ≠ Text.Utf8.bytes t := by
  constructor
  · rintro ⟨detail, h⟩ t ht
    exact nomatch h.symm.trans (ofBytes_eq_ok_iff.mpr ht)
  · intro h
    rcases ofBytes_cases bs with ⟨t, ht⟩ | hfault
    · exact absurd (ofBytes_eq_ok_iff.mp ht) (h t)
    · exact hfault

theorem parseBytes_eq_ok_iff {s : String} {bs : List UInt8} :
    parseBytes s = .ok bs ↔ ∃ ds, IsFramed ds s.toList ∧ Denotes ds bs := by
  rw [← Text.Hex.read_eq_ok_iff, parseBytes]
  cases Text.Hex.read s.toList <;> simp

theorem parseBytes_cases (s : String) :
    (∃ bs, parseBytes s = .ok bs) ∨ ∃ detail, parseBytes s = .error (.hex detail) := by
  rw [parseBytes]
  cases Text.Hex.read s.toList with
  | error e => exact .inr ⟨_, rfl⟩
  | ok bs => exact .inl ⟨_, rfl⟩

theorem exists_parseBytes_iff {s : String} : (∃ bs, parseBytes s = .ok bs) ↔ IsHexText s := by
  simp only [parseBytes_eq_ok_iff, IsHexText, ← Text.Hex.exists_denotes_iff]
  exact ⟨fun ⟨bs, ds, hframed, hds⟩ => ⟨ds, hframed, bs, hds⟩,
    fun ⟨ds, hframed, bs, hds⟩ => ⟨bs, ds, hframed, hds⟩⟩

theorem decode_of_parseBytes {s : String} {bs : List UInt8} (h : parseBytes s = .ok bs) :
    decode s = ofBytes bs := by
  rw [decode, h]

theorem decode_of_parseBytes_error {s : String} {e : Fault} (h : parseBytes s = .error e) :
    decode s = .error e := by
  rw [decode, h]

/-! ## 2. There and back -/

theorem toList_encode_iff {t : String} {ds : List Char} :
    (encode t).toList = '0' :: 'x' :: ds.map Char.toLower ↔ Denotes ds (Text.Utf8.bytes t) := by
  rw [toList_encode, Text.Hex.denotes_iff, List.cons.injEq, List.cons.injEq]
  exact ⟨fun h => h.2.2.symm, fun h => ⟨rfl, rfl, h.symm⟩⟩

theorem decode_eq_ok_iff {s t : String} : decode s = .ok t ↔
    ∃ ds, IsFramed ds s.toList ∧ Denotes ds (Text.Utf8.bytes t) := by
  rw [← parseBytes_eq_ok_iff]
  constructor
  · intro h
    rcases parseBytes_cases s with ⟨bs, hbs⟩ | ⟨detail, hfault⟩
    · rw [decode_of_parseBytes hbs, ofBytes_eq_ok_iff] at h
      rw [hbs, h]
    · rw [decode_of_parseBytes_error hfault] at h
      exact nomatch h
  · intro h
    rw [decode_of_parseBytes h, ofBytes_eq_ok_iff]

theorem decode_encode (t : String) : decode (encode t) = .ok t := by
  have hnone : AllBlank [] := fun c hc => nomatch hc
  have hframed : IsFramed (Text.Hex.writeDigits (Text.Utf8.bytes t)) (encode t).toList := by
    refine ⟨[], ['0', 'x'], [], hnone, hnone, .inr rfl, ?_⟩
    rw [toList_encode, List.append_nil]
    rfl
  exact decode_eq_ok_iff.mpr ⟨_, hframed, Text.Hex.denotes_writeDigits _⟩

theorem exists_decode_hex_iff {s : String} :
    (∃ detail, decode s = .error (.hex detail)) ↔ ¬IsHexText s := by
  rw [← exists_parseBytes_iff]
  rcases parseBytes_cases s with ⟨bs, hbs⟩ | ⟨detail, hfault⟩
  · rw [decode_of_parseBytes hbs]
    constructor
    · rintro ⟨detail, h⟩
      rcases ofBytes_cases bs with ⟨t, ht⟩ | ⟨detail', ht⟩
      · exact nomatch ht.symm.trans h
      · exact nomatch ht.symm.trans h
    · exact fun h => absurd ⟨bs, hbs⟩ h
  · rw [decode_of_parseBytes_error hfault]
    simp [hfault]

theorem exists_decode_text_iff {s : String} : (∃ detail, decode s = .error (.text detail)) ↔
    ∃ ds bs, IsFramed ds s.toList ∧ Denotes ds bs ∧ ∀ t, bs ≠ Text.Utf8.bytes t := by
  simp only [← exists_ofBytes_error_iff]
  constructor
  · rintro ⟨detail, h⟩
    rcases parseBytes_cases s with ⟨bs, hbs⟩ | ⟨detail', hfault⟩
    · obtain ⟨ds, hframed, hds⟩ := parseBytes_eq_ok_iff.mp hbs
      exact ⟨ds, bs, hframed, hds, detail, by rw [← decode_of_parseBytes hbs, h]⟩
    · rw [decode_of_parseBytes_error hfault] at h
      exact nomatch h
  · rintro ⟨ds, bs, hframed, hds, detail, h⟩
    have hbs := parseBytes_eq_ok_iff.mpr ⟨ds, hframed, hds⟩
    exact ⟨detail, by rw [decode_of_parseBytes hbs, h]⟩

/-- Hexadecimal form and text are inverse to each other, and the two faults tell apart the texts
that are no hexadecimal from those whose bytes encode no text. -/
theorem decode_encode_inverse :
    (∀ (t s : String) (ds : List Char), '0' :: 'x' :: ds.map Char.toLower = (encode t).toList →
      IsFramed ds s.toList → decode s = .ok t) ∧
    (∀ s t, decode s = .ok t → ∃ ds, IsFramed ds s.toList ∧ (∀ c ∈ ds, IsDigit c) ∧
      ds = Text.Hex.stripMark (Text.trim s.toList) ∧
      (encode t).toList = '0' :: 'x' :: ds.map Char.toLower) ∧
    (∀ bs t, ofBytes bs = .ok t ↔ bs = Text.Utf8.bytes t) ∧
    (∀ bs, (∃ detail, ofBytes bs = .error (.text detail)) ↔ ∀ t, bs ≠ Text.Utf8.bytes t) ∧
    (∀ (before : String) (front rest : List UInt8), IllFormed front rest →
      ∃ detail, ofBytes (Text.Utf8.bytes before ++ (front ++ rest)) = .error (.text detail)) ∧
    (∀ s, (∃ detail, decode s = .error (.hex detail)) ↔ ¬IsHexText s) ∧
    (∀ s, (∃ detail, decode s = .error (.text detail)) ↔
      ∃ ds bs, IsFramed ds s.toList ∧ Denotes ds bs ∧ ∀ t, bs ≠ Text.Utf8.bytes t) := by
  refine ⟨?_, ?_, fun _ _ => ofBytes_eq_ok_iff, fun _ => exists_ofBytes_error_iff, ?_,
    fun _ => exists_decode_hex_iff, fun _ => exists_decode_text_iff⟩
  · intro t s ds hds hframed
    exact decode_eq_ok_iff.mpr ⟨ds, hframed, toList_encode_iff.mp hds.symm⟩
  · intro s t h
    obtain ⟨ds, hframed, hds⟩ := decode_eq_ok_iff.mp h
    exact ⟨ds, hframed, hds.isDigit, (hframed.stripMark_eq hds.isDigit).symm,
      toList_encode_iff.mpr hds⟩
  · intro before front rest hill
    rw [exists_ofBytes_error_iff]
    intro t ht
    obtain ⟨fault, hfault⟩ := hill.decode_error before.toList
    exact nomatch hfault.symm.trans (Text.Utf8.decode_eq_ok_iff.mpr ht)

theorem decode_encode_inverse_umlaut :
    encode "ü" = "0xc3bc" ∧ decode " C3bC\n" = .ok "ü" ∧
      ∃ detail, ofBytes [0x61, 0xED, 0xA0, 0x80] = .error (.text detail) := by
  have hencode : encode "ü" = "0xc3bc" := by
    decide
  refine ⟨hencode, ?_, ?_⟩
  · refine decode_encode_inverse.1 "ü" _ ['C', '3', 'b', 'C'] ?_ ?_
    · rw [hencode]
      decide
    · have hbefore : AllBlank [' '] := List.forall_mem_singleton.mpr rfl
      have hafter : AllBlank ['\n'] := List.forall_mem_singleton.mpr rfl
      exact ⟨[' '], [], ['\n'], hbefore, hafter, .inl rfl, rfl⟩
  · -- the first surrogate, behind one letter
    exact decode_encode_inverse.2.2.2.2.1 "a" _ [] (.surrogate (n := 0xD800) (by decide))

end Preflight.HexText
