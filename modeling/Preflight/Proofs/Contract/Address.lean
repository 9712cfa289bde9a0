import Preflight.Contract.Address
import Preflight.Proofs.HexText.RoundTrip

/-!
Addresses and their written form. A text is an address exactly if it has forty digits, between blanks
and with or without `0x`, and it is the address that is written with these digits in lower case. What
is refused is refused as an address, whatever is wrong with it.
-/

namespace Preflight.Address

open Text (AllBlank)
open Text.Hex (IsDigit IsFramed Denotes)
open HexText (IsHexText)

/-! ## 1. The written form -/

theorem toList_text (a : Address) : a.text.toList = '0' :: 'x' :: Text.Hex.writeDigits a.bytes := by
  rw [text, String.toList_ofList, Text.Hex.write]

theorem toList_text_iff {a : Address} {ds : List Char} :
    a.text.toList = '0' :: 'x' :: ds.map Char.toLower ↔ Denotes ds a.bytes := by
  rw [toList_text, Text.Hex.denotes_iff, List.cons.injEq, List.cons.injEq]
  exact ⟨fun h => h.2.2.symm, fun h => ⟨rfl, rfl, h.symm⟩⟩

/-- Digits that denote an address are forty. -/
theorem length_eq_of_denotes {ds : List Char} {a : Address} (h : Denotes ds a.bytes) :
    ds.length = 40 := by
  rw [h.length, a.length_bytes, addressLength]

theorem isFramed_text (a : Address) : IsFramed (Text.Hex.writeDigits a.bytes) a.text.toList := by
  have hnone : AllBlank [] := fun c hc => nomatch hc
  refine ⟨[], ['0', 'x'], [], hnone, hnone, .inr rfl, ?_⟩
  rw [toList_text, List.append_nil]
  rfl

/-! ## 2. Reading -/

theorem parse_eq_ok_iff_bytes {s : String} {a : Address} :
    parse s = .ok a ↔ HexText.parseBytes s = .ok a.bytes := by
  rw [parse]
  cases HexText.parseBytes s with
  | error e => simp
  | ok bs =>
    dsimp only
    split
    case isTrue h =>
      rw [Except.ok.injEq, Except.ok.injEq, Address.ext_iff]
    case isFalse h =>
      have hne : bs ≠ a.bytes := fun heq => h (heq ▸ a.length_bytes)
      simp [hne]

theorem parse_eq_ok_iff {s : String} {a : Address} :
    parse s = .ok a ↔ ∃ ds, IsFramed ds s.toList ∧ Denotes ds a.bytes := by
  rw [parse_eq_ok_iff_bytes, HexText.parseBytes_eq_ok_iff]

theorem parse_text (a : Address) : parse a.text = .ok a :=
  parse_eq_ok_iff.mpr ⟨_, isFramed_text a, Text.Hex.denotes_writeDigits a.bytes⟩

/-- Forty digits in a frame are an address. -/
theorem exists_parse_iff {s : String} : (∃ a, parse s = .ok a) ↔
    ∃ ds, IsFramed ds s.toList ∧ ds.length = 40 ∧ ∀ c ∈ ds, IsDigit c := by
  simp only [parse_eq_ok_iff]
  constructor
  · rintro ⟨a, ds, hframed, hds⟩
    exact ⟨ds, hframed, length_eq_of_denotes hds, hds.isDigit⟩
  · rintro ⟨ds, hframed, hlen, hdigits⟩
    obtain ⟨bs, hbs⟩ := Text.Hex.exists_denotes_iff.mpr ⟨⟨20, hlen⟩, hdigits⟩
    have hlength : bs.length = addressLength := by
      have h := hbs.length
      rw [addressLength]
      omega
    exact ⟨⟨bs, hlength⟩, ds, hframed, hbs⟩

/-! ## 3. Faults -/

theorem parse_of_not_hex {s : String} (h : ¬IsHexText s) : ∃ detail,
    parse s = .error (.address s!"Invalid hex: {(Fault.hex detail).message}") := by
  rw [← HexText.exists_parseBytes_iff] at h
  rcases HexText.parseBytes_cases s with hok | ⟨detail, hfault⟩
  · exact absurd hok h
  · exact ⟨detail, by rw [parse, hfault]⟩

theorem parse_of_length {s : String} {ds : List Char} {bs : List UInt8}
    (hframed : IsFramed ds s.toList) (hds : Denotes ds bs) (hlen : bs.length ≠ addressLength) :
    parse s = .error (.address s!"H160 must be 20 bytes in length, got {bs.length}") := by
  rw [parse, HexText.parseBytes_eq_ok_iff.mpr ⟨ds, hframed, hds⟩]
  dsimp only
  rw [dif_neg hlen]

/-- A text that is no address is no hexadecimal text, or one for another number of bytes. -/
theorem parse_cases (s : String) :
    (∃ a, parse s = .ok a) ∨ ∃ detail, parse s = .error (.address detail) := by
  by_cases hhex : IsHexText s
  · obtain ⟨bs, hbs⟩ := HexText.exists_parseBytes_iff.mpr hhex
    by_cases hlen : bs.length = addressLength
    · exact .inl ⟨⟨bs, hlen⟩, parse_eq_ok_iff_bytes.mpr hbs⟩
    · obtain ⟨ds, hframed, hds⟩ := HexText.parseBytes_eq_ok_iff.mp hbs
      exact .inr ⟨_, parse_of_length hframed hds hlen⟩
  · obtain ⟨detail, h⟩ := parse_of_not_hex hhex
    exact .inr ⟨_, h⟩

theorem exists_parse_error_iff {s : String} : (∃ detail, parse s = .error (.address detail)) ↔
    ¬∃ ds, IsFramed ds s.toList ∧ ds.length = 40 ∧ ∀ c ∈ ds, IsDigit c := by
  rw [← exists_parse_iff]
  rcases parse_cases s with ⟨a, ha⟩ | ⟨detail, hfault⟩
  · simp [ha]
  · simp [hfault]

/-! ## 4. Addresses and texts -/

/-- Addresses and their texts are inverse to each other. Forty digits in a frame are an address, and
the same address is written with them in lower case; its bytes are those that were read, all of them
and nothing else. A written address has forty digits of lower case and is read back. Every other text
is refused as an address: one that is no hexadecimal with the fault that it has as such, and one that
is with the number of bytes that it denotes. -/
theorem parse_text_inverse :
    (∀ s a, parse s = .ok a ↔ ∃ ds, IsFramed ds s.toList ∧ ds.length = 40 ∧
      (∀ c ∈ ds, IsDigit c) ∧ a.text.toList = '0' :: 'x' :: ds.map Char.toLower) ∧
    (∀ s, (∃ a, parse s = .ok a) ↔
      ∃ ds, IsFramed ds s.toList ∧ ds.length = 40 ∧ ∀ c ∈ ds, IsDigit c) ∧
    (∀ s a, parse s = .ok a → HexText.parseBytes s = .ok a.bytes) ∧
    (∀ a, parse a.text = .ok a ∧ ∃ ds, a.text.toList = '0' :: 'x' :: ds ∧ ds.length = 40 ∧
      (∀ c ∈ ds, IsDigit c) ∧ ds.map Char.toLower = ds) ∧
    (∀ s, (∃ detail, parse s = .error (.address detail)) ↔
      ¬∃ ds, IsFramed ds s.toList ∧ ds.length = 40 ∧ ∀ c ∈ ds, IsDigit c) ∧
    (∀ s, ¬IsHexText s → ∃ detail,
      parse s = .error (.address s!"Invalid hex: {(Fault.hex detail).message}")) ∧
    (∀ s ds bs, IsFramed ds s.toList → Denotes ds bs → bs.length ≠ 20 →
      parse s = .error (.address s!"H160 must be 20 bytes in length, got {bs.length}")) := by
  refine ⟨?_, fun _ => exists_parse_iff, fun _ _ => parse_eq_ok_iff_bytes.mp, ?_,
    fun _ => exists_parse_error_iff, fun _ => parse_of_not_hex,
    fun _ _ _ hframed hds hlen => parse_of_length hframed hds hlen⟩
  · intro s a
    rw [parse_eq_ok_iff]
    constructor
    · rintro ⟨ds, hframed, hds⟩
      exact ⟨ds, hframed, length_eq_of_denotes hds, hds.isDigit, toList_text_iff.mpr hds⟩
    · rintro ⟨ds, hframed, -, -, htext⟩
      exact ⟨ds, hframed, toList_text_iff.mp htext⟩
  · intro a
    have hds := Text.Hex.denotes_writeDigits a.bytes
    exact ⟨parse_text a, _, toList_text a, length_eq_of_denotes hds, hds.isDigit,
      Text.Hex.denotes_iff.mp hds⟩

/-- An address of nineteen zero bytes and a last one. -/
def lastOnly : Address := ⟨List.replicate 19 0 ++ [0xFF], rfl⟩

theorem parse_text_inverse_lastOnly :
    parse (String.ofList (' ' :: List.replicate 38 '0' ++ ['f', 'F', '\n'])) = .ok lastOnly ∧
      parse "0x00fF" = .error (.address "H160 must be 20 bytes in length, got 2") := by
  have hnone : AllBlank [] := fun c hc => nomatch hc
  have hbefore : AllBlank [' '] := List.forall_mem_singleton.mpr rfl
  have hafter : AllBlank ['\n'] := List.forall_mem_singleton.mpr rfl
  have hzero : IsDigit '0' := .inl (by decide)
  have hdigits : ∀ c ∈ List.replicate 38 '0' ++ ['f', 'F'], IsDigit c := by
    intro c hc
    rcases List.mem_append.mp hc with hc | hc
    · exact List.eq_of_mem_replicate hc ▸ hzero
    · rcases List.mem_pair.mp hc with rfl | rfl
      · exact .inr (.inr (by decide))
      · exact .inr (.inl (by decide))
  have hshort : Denotes ['0', '0', 'f', 'F'] [0x00, 0xFF] :=
    Text.Hex.denotes_iff.mpr (by decide)
  constructor
  · exact (parse_text_inverse.1 _ lastOnly).mpr
      ⟨_, ⟨[' '], [], ['\n'], hbefore, hafter, .inl rfl, String.toList_ofList⟩, rfl, hdigits,
        by decide⟩
  · exact parse_text_inverse.2.2.2.2.2.2 _ _ _
      ⟨[], ['0', 'x'], [], hnone, hnone, .inr rfl, rfl⟩ hshort (by decide)

end Preflight.Address
