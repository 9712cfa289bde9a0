import Preflight.Json.Written
import Preflight.Proofs.Json.Grammar
import Preflight.Proofs.Text.Hex

/-!
What is written for a list of texts denotes this list by the grammar of JSON, and nothing else, with
or without white space. The text of an item ends at its own quotes, whatever is in the item, and the
commas and brackets that count are those outside of quotes.
-/

namespace Preflight.Json

/-! ## 1. Characters -/

theorem isUnit_of_control {c : Char} (h : c.toNat < 0x20) :
    IsUnit '0' '0' (Text.Hex.digit (c.toNat / 16)) (Text.Hex.digit (c.toNat % 16)) c.toNat := by
  have hhigh := Text.Hex.value?_digit ⟨c.toNat / 16, by omega⟩
  have hlow := Text.Hex.value?_digit ⟨c.toNat % 16, by omega⟩
  exact ⟨0, 0, _, _, rfl, rfl, hhigh, hlow, by simp only; omega⟩

/-- The three ways in which a character is written inside quotes. -/
theorem escape_cases (c : Char) :
    (0x20 ≤ c.toNat ∧ c ≠ '"' ∧ c ≠ '\\' ∧ escape c = [c]) ∨
    (∃ letter, (letter, c) ∈ letters ∧ escape c = ['\\', letter]) ∨
    (∃ a b, IsUnit '0' '0' a b c.toNat ∧ escape c = ['\\', 'u', '0', '0', a, b]) := by
  rw [escape]
  by_cases hquote : c = '"'
  · exact .inr (.inl ⟨'"', by rw [hquote]; decide, if_pos hquote⟩)
  rw [if_neg hquote]
  by_cases hslash : c = '\\'
  · exact .inr (.inl ⟨'\\', by rw [hslash]; decide, if_pos hslash⟩)
  rw [if_neg hslash]
  by_cases hb : c = '\x08'
  · exact .inr (.inl ⟨'b', by rw [hb]; decide, if_pos hb⟩)
  rw [if_neg hb]
  by_cases ht : c = '\t'
  · exact .inr (.inl ⟨'t', by rw [ht]; decide, if_pos ht⟩)
  rw [if_neg ht]
  by_cases hn : c = '\n'
  · exact .inr (.inl ⟨'n', by rw [hn]; decide, if_pos hn⟩)
  rw [if_neg hn]
  by_cases hf : c = '\x0c'
  · exact .inr (.inl ⟨'f', by rw [hf]; decide, if_pos hf⟩)
  rw [if_neg hf]
  by_cases hr : c = '\r'
  · exact .inr (.inl ⟨'r', by rw [hr]; decide, if_pos hr⟩)
  rw [if_neg hr]
  by_cases hcontrol : c.toNat < 0x20
  · exact .inr (.inr ⟨_, _, isUnit_of_control hcontrol, if_pos hcontrol⟩)
  · exact .inl ⟨Nat.le_of_not_lt hcontrol, hquote, hslash, if_neg hcontrol⟩

theorem Chars.cons_escape {cs text rest : List Char} (c : Char) (h : Chars cs text rest) :
    Chars (escape c ++ cs) (c :: text) rest := by
  obtain ⟨hc, hquote, hslash, he⟩ | ⟨letter, hletter, he⟩ | ⟨a, b, hunit, he⟩ := escape_cases c
  · rw [he]
    exact .plain hc hquote hslash h
  · rw [he]
    exact .short hletter h
  · rw [he]
    have hchar := Chars.unit hunit c.valid h
    rw [Char.ofNat_toNat] at hchar
    exact hchar

theorem chars_escaped (cs rest : List Char) :
    Chars (cs.flatMap escape ++ '"' :: rest) cs rest := by
  induction cs with
  | nil => exact .close
  | cons c cs ih =>
    rw [List.flatMap_cons, List.append_assoc]
    exact ih.cons_escape c

/-! ## 2. Lists by the grammar -/

variable {blank : List Char}

-- a written text as the grammar wants it, its closing quotes before what is behind it
theorem string_append (cs rest : List Char) :
    string cs ++ rest = '"' :: (cs.flatMap escape ++ '"' :: rest) := by
  rw [string, List.cons_append, List.cons_append, List.append_assoc]
  rfl

theorem moreStrings_append (cs : List Char) (more : List (List Char)) (rest : List Char) :
    moreStrings (cs :: more) ++ rest = ',' :: (string cs ++ (moreStrings more ++ rest)) := by
  rw [moreStrings, ← List.append_assoc]
  rfl

theorem reads_string (blank cs rest : List Char) :
    Reads blank (string cs ++ rest) (.text cs) rest := by
  rw [string_append]
  exact .text (chars_escaped cs rest)

theorem readsItems_strings (blank cs : List Char) (more : List (List Char)) (rest : List Char) :
    ReadsItems blank (string cs ++ (moreStrings more ++ ']' :: rest))
      (.text cs :: more.map .text) rest := by
  induction more generalizing cs with
  | nil => exact .last (.refl _ _) (reads_string blank cs _) (.refl _ _)
  | cons d more ih =>
    rw [moreStrings_append]
    exact .more (.refl _ _) (reads_string blank cs _) (.refl _ _) (ih d)

theorem strings_cons (cs : List Char) (more : List (List Char)) :
    strings (cs :: more) = '[' :: (string cs ++ (moreStrings more ++ [']'])) := by
  rw [strings, List.append_assoc, List.cons_append]

theorem denotes_strings (blank : List Char) (items : List (List Char)) :
    Denotes blank (strings items) (.array (items.map .text)) := by
  refine ⟨strings items, [], .refl _ _, ?_, .refl _ _⟩
  cases items with
  | nil => exact .emptyArray (.refl _ _)
  | cons cs more =>
    rw [strings_cons]
    exact .array (readsItems_strings blank cs more [])

/-- A written text and what is behind it are read in one way only. -/
theorem Reads.of_string {cs rest rest' : List Char} {v : Value}
    (h : Reads blank (string cs ++ rest) v rest') : v = .text cs ∧ rest' = rest := by
  rw [string_append] at h
  obtain ⟨text, rfl, hchars⟩ := h.of_quote
  obtain ⟨rfl, rfl⟩ := hchars.unique (chars_escaped cs rest)
  exact ⟨rfl, rfl⟩

/-- The first item of an array is the text that is written first. -/
theorem ReadsItems.of_string {cs cs' rest : List Char} {items : List Value}
    (h : ReadsItems whiteSpace (string cs ++ cs') items rest) :
    (items = [.text cs] ∧ Skips whiteSpace cs' (']' :: rest)) ∨
    ∃ more cs'', items = .text cs :: more ∧ Skips whiteSpace cs' (',' :: cs'') ∧
      ReadsItems whiteSpace cs'' more rest := by
  have hquote : ∀ {cs₁}, Skips whiteSpace (string cs ++ cs') cs₁ → cs₁ = string cs ++ cs' :=
    fun hskips => hskips.eq (by decide)
  cases h with
  | last hfront hv hend =>
    rw [hquote hfront] at hv
    obtain ⟨rfl, rfl⟩ := hv.of_string
    exact .inl ⟨rfl, hend⟩
  | more hfront hv hend h =>
    rw [hquote hfront] at hv
    obtain ⟨rfl, rfl⟩ := hv.of_string
    exact .inr ⟨_, _, rfl, hend, h⟩

theorem ReadsItems.of_strings {cs rest : List Char} {more : List (List Char)}
    {items : List Value}
    (h : ReadsItems whiteSpace (string cs ++ (moreStrings more ++ [']'])) items rest) :
    items = .text cs :: more.map .text ∧ rest = [] := by
  induction more generalizing cs items with
  | nil =>
    obtain ⟨rfl, hend⟩ | ⟨more, cs'', rfl, hend, -⟩ := h.of_string
    · cases hend.eq (by decide)
      exact ⟨rfl, rfl⟩
    · exact nomatch hend.eq (by decide)
  | cons d more ih =>
    rw [moreStrings_append] at h
    obtain ⟨rfl, hend⟩ | ⟨more', cs'', rfl, hend, h⟩ := h.of_string
    · exact nomatch hend.eq (by decide)
    · cases hend.eq (by decide)
      obtain ⟨rfl, rfl⟩ := ih h
      exact ⟨rfl, rfl⟩

theorem not_readsItems_close {cs rest : List Char} {items : List Value} :
    ¬ ReadsItems whiteSpace (']' :: cs) items rest := by
  intro h
  cases h with
  | last hfront hv =>
    rw [hfront.eq (by decide)] at hv
    exact not_reads_close hv
  | more hfront hv =>
    rw [hfront.eq (by decide)] at hv
    exact not_reads_close hv

/-- What is written for a list denotes nothing but this list. -/
theorem Denotes.of_strings {items : List (List Char)} {v : Value}
    (h : Denotes whiteSpace (strings items) v) : v = .array (items.map .text) := by
  obtain ⟨cs₁, cs₂, hfront, hv, -⟩ := h
  cases items with
  | nil =>
    rw [strings] at hfront
    rw [hfront.eq (by decide)] at hv
    obtain ⟨items, rfl, ⟨rfl, -⟩ | hitems⟩ := hv.of_bracket
    · rfl
    · exact absurd hitems not_readsItems_close
  | cons cs more =>
    rw [strings_cons] at hfront
    rw [hfront.eq (by decide)] at hv
    obtain ⟨items, rfl, ⟨rfl, hend⟩ | hitems⟩ := hv.of_bracket
    · exact nomatch hend.eq (by decide)
    · rw [hitems.of_strings.1]
      rfl

/-! ## 3. No control characters -/

theorem le_toNat_of_value? {c : Char} {n : Nat} (h : Text.Hex.value? c = some n) :
    0x20 ≤ c.toNat := by
  have hrange := (Text.Hex.isDigit_iff.mpr ⟨n, h⟩).toNat_range
  omega

theorem le_toNat_of_mem_escape {c d : Char} (hd : d ∈ escape c) : 0x20 ≤ d.toNat := by
  obtain ⟨hc, -, -, he⟩ | ⟨letter, hletter, he⟩ | ⟨a, b, ⟨_, _, _, _, -, -, ha, hb, -⟩, he⟩ :=
    escape_cases c
  · rw [he, List.mem_singleton] at hd
    rw [hd]
    exact hc
  · rw [he] at hd
    have hletters : ∀ p ∈ letters, ∀ d ∈ ['\\', p.1], 0x20 ≤ d.toNat := by simp [letters]
    exact hletters _ hletter d hd
  · rw [he, show ['\\', 'u', '0', '0', a, b] = ['\\', 'u', '0', '0'] ++ [a, b] from rfl,
      List.mem_append] at hd
    rcases hd with hd | hd
    · have hfixed : ∀ d ∈ ['\\', 'u', '0', '0'], 0x20 ≤ d.toNat := by simp
      exact hfixed d hd
    · rcases List.mem_pair.mp hd with rfl | rfl
      · exact le_toNat_of_value? ha
      · exact le_toNat_of_value? hb

theorem le_toNat_of_mem_string {cs : List Char} {d : Char} (hd : d ∈ string cs) :
    0x20 ≤ d.toNat := by
  rw [string, List.mem_append, List.mem_cons, List.mem_singleton, List.mem_flatMap] at hd
  rcases hd with (rfl | ⟨c, -, hd⟩) | rfl
  · decide
  · exact le_toNat_of_mem_escape hd
  · decide

theorem le_toNat_of_mem_moreStrings {items : List (List Char)} {d : Char}
    (hd : d ∈ moreStrings items) : 0x20 ≤ d.toNat := by
  induction items with
  | nil => exact nomatch hd
  | cons cs items ih =>
    rw [moreStrings, List.mem_append, List.mem_cons] at hd
    rcases hd with (rfl | hd) | hd
    · decide
    · exact le_toNat_of_mem_string hd
    · exact ih hd

theorem le_toNat_of_mem_strings {items : List (List Char)} {d : Char} (hd : d ∈ strings items) :
    0x20 ≤ d.toNat := by
  cases items with
  | nil =>
    have hfixed : ∀ d ∈ ['[', ']'], 0x20 ≤ d.toNat := by simp
    exact hfixed d hd
  | cons cs more =>
    rw [strings, List.mem_append, List.mem_append, List.mem_cons, List.mem_singleton] at hd
    rcases hd with ((rfl | hd) | hd) | rfl
    · decide
    · exact le_toNat_of_mem_string hd
    · exact le_toNat_of_mem_moreStrings hd
    · decide

/-! ## 4. Reading what is written -/

theorem readValue?_string (bound depth : Nat) (cs rest : List Char) :
    readValue? (bound + 1) depth (string cs ++ rest) = some (.text cs, rest) := by
  rw [string_append, readValue?]
  show (readString? _).map _ = _
  rw [(chars_escaped cs rest).readString?_eq]
  rfl

theorem readItems?_strings (bound depth : Nat) (cs : List Char) (more : List (List Char))
    (rest : List Char) :
    readItems? (bound + more.length + 2) depth (string cs ++ (moreStrings more ++ ']' :: rest)) =
      some (.text cs :: more.map .text, rest) := by
  induction more generalizing cs with
  | nil =>
    rw [readItems?, readValue?_string]
    rfl
  | cons d more ih =>
    rw [readItems?, readValue?_string, moreStrings_append]
    show (readItems? (bound + more.length + 2) depth _).map _ = _
    rw [ih]
    rfl

theorem length_le_moreStrings (items : List (List Char)) :
    items.length ≤ (moreStrings items).length := by
  induction items with
  | nil => exact Nat.le_refl 0
  | cons cs items ih =>
    rw [moreStrings, List.length_append, List.length_cons, List.length_cons]
    omega

theorem readValue?_strings (bound depth : Nat) (cs : List Char) (more : List (List Char)) :
    readValue? (bound + more.length + 3) (depth + 1) (strings (cs :: more)) =
      some (.array (.text cs :: more.map .text), []) := by
  rw [strings_cons, readValue?]
  show (readItems? (bound + more.length + 2) depth _).map _ = _
  rw [readItems?_strings]
  rfl

/-- The reader reads the list back that was written. -/
theorem parse?_strings (items : List (List Char)) :
    parse? (strings items) = some (.array (items.map .text)) := by
  cases items with
  | nil => rfl
  | cons cs more =>
    have hlength := length_le_moreStrings more
    obtain ⟨bound, hbound⟩ : ∃ bound,
        2 * (strings (cs :: more)).length + 2 = bound + more.length + 3 := by
      refine ⟨2 * (strings (cs :: more)).length + 2 - (more.length + 3), ?_⟩
      rw [strings_cons, List.length_cons, List.length_append, List.length_append]
      omega
    rw [parse?, hbound, maxDepth, readValue?_strings]
    rfl

end Preflight.Json
