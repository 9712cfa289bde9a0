import Preflight.Json.Value

/-!
JSON texts by their grammar, as relations between a text, what it denotes and what is behind it. The
characters that may stand between the parts of a text without a meaning of their own are a parameter
of the grammar: four for JSON, none for texts without insignificant white space.
-/

namespace Preflight.Json

/-! ## 1. Numbers -/

def IsDigits (cs : List Char) : Prop := cs ≠ [] ∧ ∀ c ∈ cs, c.isDigit = true

/-- Digits that do not begin with a zero, unless it is the only one. -/
def IsWhole (cs : List Char) : Prop := IsDigits cs ∧ (cs.head? = some '0' → cs = ['0'])

def IsFraction (cs : List Char) : Prop := cs = [] ∨ ∃ digits, IsDigits digits ∧ cs = '.' :: digits

def IsExponent (cs : List Char) : Prop :=
  cs = [] ∨ ∃ letter ∈ ['e', 'E'], ∃ sign ∈ [[], ['+'], ['-']], ∃ digits,
    IsDigits digits ∧ cs = letter :: sign ++ digits

def IsNumberText (cs : List Char) : Prop :=
  ∃ sign ∈ [[], ['-']], ∃ whole fraction exponent, IsWhole whole ∧ IsFraction fraction ∧
    IsExponent exponent ∧ cs = sign ++ whole ++ fraction ++ exponent

/-- A number begins with its sign or with a digit. -/
theorem IsNumberText.head {cs : List Char} (h : IsNumberText cs) :
    ∃ c rest, cs = c :: rest ∧ (c = '-' ∨ c.isDigit = true) := by
  obtain ⟨sign, hsign, whole, fraction, exponent, ⟨⟨hne, hdigits⟩, -⟩, -, -, rfl⟩ := h
  obtain ⟨d, ds, rfl⟩ := List.exists_cons_of_ne_nil hne
  rcases List.mem_cons.mp hsign with rfl | hsign
  · exact ⟨d, _, rfl, .inr (hdigits d List.mem_cons_self)⟩
  · rw [List.mem_singleton.mp hsign]
    exact ⟨'-', _, rfl, .inl rfl⟩

/-! ## 2. Strings -/

/-- The letters behind a backslash, each with the character that it stands for. -/
def letters : List (Char × Char) :=
  [('"', '"'), ('\\', '\\'), ('/', '/'), ('b', '\x08'), ('f', '\x0c'), ('n', '\n'), ('r', '\r'),
    ('t', '\t')]

/-- Four hexadecimal digits and their value. -/
def IsUnit (a b c d : Char) (n : Nat) : Prop :=
  ∃ w x y z, Text.Hex.value? a = some w ∧ Text.Hex.value? b = some x ∧
    Text.Hex.value? c = some y ∧ Text.Hex.value? d = some z ∧ n = ((w * 16 + x) * 16 + y) * 16 + z

/-- A string behind its opening quotes, its text, and what is behind its closing quotes. -/
inductive Chars : List Char → List Char → List Char → Prop
  | close {rest : List Char} : Chars ('"' :: rest) [] rest
  | plain {c : Char} {cs text rest : List Char} (hc : 0x20 ≤ c.toNat) (hquote : c ≠ '"')
      (hslash : c ≠ '\\') (h : Chars cs text rest) : Chars (c :: cs) (c :: text) rest
  | short {letter c : Char} {cs text rest : List Char} (hc : (letter, c) ∈ letters)
      (h : Chars cs text rest) : Chars ('\\' :: letter :: cs) (c :: text) rest
  | unit {a b c d : Char} {n : Nat} {cs text rest : List Char} (hn : IsUnit a b c d n)
      (hchar : n.isValidChar) (h : Chars cs text rest) :
      Chars ('\\' :: 'u' :: a :: b :: c :: d :: cs) (Char.ofNat n :: text) rest
  -- a character above U+FFFF, as two halves
  | pair {a b c d a' b' c' d' : Char} {n m : Nat} {cs text rest : List Char}
      (hn : IsUnit a b c d n) (hhigh : 0xD800 ≤ n ∧ n ≤ 0xDBFF)
      (hm : IsUnit a' b' c' d' m) (hlow : 0xDC00 ≤ m ∧ m ≤ 0xDFFF) (h : Chars cs text rest) :
      Chars ('\\' :: 'u' :: a :: b :: c :: d :: '\\' :: 'u' :: a' :: b' :: c' :: d' :: cs)
        (Char.ofNat (0x10000 + (n - 0xD800) * 0x400 + (m - 0xDC00)) :: text) rest

theorem ne_u_of_mem_letters {letter c : Char} (h : (letter, c) ∈ letters) : letter ≠ 'u' := by
  have hletters : ∀ p ∈ letters, p.1 ≠ 'u' := by decide
  exact hletters _ h

theorem shortEscape?_of_mem_letters {letter c : Char} (h : (letter, c) ∈ letters) :
    shortEscape? letter = some c := by
  have hletters : ∀ p ∈ letters, shortEscape? p.1 = some p.2 := by decide
  exact hletters _ h

theorem IsUnit.hexFour?_eq {a b c d : Char} {n : Nat} (h : IsUnit a b c d n) :
    hexFour? a b c d = some n := by
  obtain ⟨w, x, y, z, ha, hb, hc, hd, rfl⟩ := h
  rw [hexFour?, ha, hb, hc, hd]
  rfl

theorem isHighHalf_iff {n : Nat} : isHighHalf n = true ↔ 0xD800 ≤ n ∧ n ≤ 0xDBFF := by
  simp only [isHighHalf, Bool.and_eq_true, decide_eq_true_eq]

theorem isLowHalf_iff {n : Nat} : isLowHalf n = true ↔ 0xDC00 ≤ n ∧ n ≤ 0xDFFF := by
  simp only [isLowHalf, Bool.and_eq_true, decide_eq_true_eq]

theorem not_isLowHalf_of_high {n : Nat} (h : 0xD800 ≤ n ∧ n ≤ 0xDBFF) :
    ¬ isLowHalf n = true := by
  rw [isLowHalf_iff]
  omega

-- The two halves of a character are no characters.
theorem not_isHalf_of_isValidChar {n : Nat} (h : n.isValidChar) :
    ¬ isLowHalf n = true ∧ ¬ isHighHalf n = true := by
  rw [isLowHalf_iff, isHighHalf_iff]
  rcases h with h | ⟨h, -⟩
  · omega
  · omega

/-- A string of the grammar is read as its text. -/
theorem Chars.readString?_eq {cs text rest : List Char} (h : Chars cs text rest) :
    readString? cs = some (text, rest) := by
  induction h with
  | close => rfl
  | @plain c cs text rest hc hquote hslash h ih =>
    rw [readString?, ih]
    · rw [if_neg]
      · rfl
      · simp only [Bool.or_eq_true, decide_eq_true_eq, hslash, Nat.not_lt.mpr hc, or_self,
          not_false_eq_true]
    -- neither the pattern of a quote nor one of a backslash fits
    · exact hquote
    · exact fun _ _ _ _ _ heq _ => hslash heq
    · exact fun _ _ heq _ => hslash heq
  | @short letter c cs text rest hc h ih =>
    rw [readString?, shortEscape?_of_mem_letters hc, ih]
    · rfl
    · exact fun _ _ _ _ _ heq _ => ne_u_of_mem_letters hc heq
  | unit hn hchar h ih =>
    obtain ⟨hlow, hhigh⟩ := not_isHalf_of_isValidChar hchar
    rw [readString?, hn.hexFour?_eq, ih]
    show (if _ then _ else if _ then _ else _) = _
    rw [if_neg hlow, if_neg hhigh]
    rfl
  | pair hn hhigh hm hlow h ih =>
    rw [readString?, hn.hexFour?_eq]
    show (if _ then _ else if _ then _ else _) = _
    rw [if_neg (not_isLowHalf_of_high hhigh), if_pos (isHighHalf_iff.mpr hhigh)]
    simp only [hm.hexFour?_eq, if_pos (isLowHalf_iff.mpr hlow), ih]
    rfl

/-- A string has one text and one end. -/
theorem Chars.unique {cs text text' rest rest' : List Char} (h : Chars cs text rest)
    (h' : Chars cs text' rest') : text = text' ∧ rest = rest' := by
  have hsame := h.readString?_eq.symm.trans h'.readString?_eq
  exact Prod.mk.inj (Option.some.inj hsame)

/-! ## 3. Values -/

/-- The characters that JSON calls insignificant white space. -/
def whiteSpace : List Char := [' ', '\t', '\n', '\r']

variable {blank : List Char}

/-- What is left of a text behind some blanks. -/
def Skips (blank cs rest : List Char) : Prop :=
  ∃ space, (∀ c ∈ space, c ∈ blank) ∧ cs = space ++ rest

mutual

/-- A value at the front of a text, and what is behind it. -/
inductive Reads (blank : List Char) : List Char → Value → List Char → Prop
  | null {rest : List Char} : Reads blank ('n' :: 'u' :: 'l' :: 'l' :: rest) .null rest
  | yes {rest : List Char} : Reads blank ('t' :: 'r' :: 'u' :: 'e' :: rest) (.boolean true) rest
  | no {rest : List Char} :
      Reads blank ('f' :: 'a' :: 'l' :: 's' :: 'e' :: rest) (.boolean false) rest
  | number {cs text rest : List Char} (hcs : cs = text ++ rest) (h : IsNumberText text) :
      Reads blank cs (.number text) rest
  | text {cs text rest : List Char} (h : Chars cs text rest) :
      Reads blank ('"' :: cs) (.text text) rest
  | emptyArray {cs rest : List Char} (h : Skips blank cs (']' :: rest)) :
      Reads blank ('[' :: cs) (.array []) rest
  | array {cs rest : List Char} {items : List Value} (h : ReadsItems blank cs items rest) :
      Reads blank ('[' :: cs) (.array items) rest
  | emptyObject {cs rest : List Char} (h : Skips blank cs ('\x7d' :: rest)) :
      Reads blank ('\x7b' :: cs) (.object []) rest
  | object {cs rest : List Char} {pairs : List (List Char × Value)}
      (h : ReadsPairs blank cs pairs rest) : Reads blank ('\x7b' :: cs) (.object pairs) rest

/-- The items of an array up to its closing bracket. -/
inductive ReadsItems (blank : List Char) : List Char → List Value → List Char → Prop
  | last {cs cs₁ cs₂ rest : List Char} {v : Value} (hfront : Skips blank cs cs₁)
      (hv : Reads blank cs₁ v cs₂) (hend : Skips blank cs₂ (']' :: rest)) :
      ReadsItems blank cs [v] rest
  | more {cs cs₁ cs₂ cs₃ rest : List Char} {v : Value} {items : List Value}
      (hfront : Skips blank cs cs₁) (hv : Reads blank cs₁ v cs₂)
      (hend : Skips blank cs₂ (',' :: cs₃)) (h : ReadsItems blank cs₃ items rest) :
      ReadsItems blank cs (v :: items) rest

/-- The pairs of an object up to its closing brace. -/
inductive ReadsPairs (blank : List Char) :
    List Char → List (List Char × Value) → List Char → Prop
  | last {cs cs₁ cs₂ cs₃ cs₄ cs₅ key rest : List Char} {v : Value}
      (hfront : Skips blank cs ('"' :: cs₁)) (hkey : Chars cs₁ key cs₂)
      (hcolon : Skips blank cs₂ (':' :: cs₃)) (hvalue : Skips blank cs₃ cs₄)
      (hv : Reads blank cs₄ v cs₅) (hend : Skips blank cs₅ ('\x7d' :: rest)) :
      ReadsPairs blank cs [(key, v)] rest
  | more {cs cs₁ cs₂ cs₃ cs₄ cs₅ cs₆ key rest : List Char} {v : Value}
      {pairs : List (List Char × Value)}
      (hfront : Skips blank cs ('"' :: cs₁)) (hkey : Chars cs₁ key cs₂)
      (hcolon : Skips blank cs₂ (':' :: cs₃)) (hvalue : Skips blank cs₃ cs₄)
      (hv : Reads blank cs₄ v cs₅) (hend : Skips blank cs₅ (',' :: cs₆))
      (h : ReadsPairs blank cs₆ pairs rest) : ReadsPairs blank cs ((key, v) :: pairs) rest

end

/-- The whole text denotes the value, with blanks before and behind it. -/
def Denotes (blank cs : List Char) (v : Value) : Prop :=
  ∃ cs₁ cs₂, Skips blank cs cs₁ ∧ Reads blank cs₁ v cs₂ ∧ Skips blank cs₂ []

/-! ## 4. What the first character tells -/

theorem Skips.refl (blank cs : List Char) : Skips blank cs cs :=
  ⟨[], fun _ hc => (nomatch hc), rfl⟩

theorem Skips.eq {c : Char} {cs rest : List Char} (h : Skips blank (c :: cs) rest)
    (hc : c ∉ blank) : rest = c :: cs := by
  obtain ⟨space, hspace, hcs⟩ := h
  cases space with
  | nil => exact hcs.symm
  | cons d space =>
    cases hcs
    exact absurd (hspace c List.mem_cons_self) hc

theorem not_isNumberText_append {c : Char} {cs text rest : List Char}
    (hcs : c :: cs = text ++ rest) (hsign : c ≠ '-') (hdigit : c.isDigit = false) :
    ¬ IsNumberText text := by
  intro h
  obtain ⟨d, ds, rfl, hd⟩ := h.head
  cases hcs
  rcases hd with rfl | hd
  · exact hsign rfl
  · rw [hdigit] at hd
    exact nomatch hd

/-- Behind quotes there is a string. -/
theorem Reads.of_quote {cs rest : List Char} {v : Value} (h : Reads blank ('"' :: cs) v rest) :
    ∃ text, v = .text text ∧ Chars cs text rest := by
  cases h with
  | number hcs h => exact absurd h (not_isNumberText_append hcs (by decide) (by decide))
  | text h => exact ⟨_, rfl, h⟩

/-- Behind a bracket there is an array. -/
theorem Reads.of_bracket {cs rest : List Char} {v : Value} (h : Reads blank ('[' :: cs) v rest) :
    ∃ items, v = .array items ∧
      (items = [] ∧ Skips blank cs (']' :: rest) ∨ ReadsItems blank cs items rest) := by
  cases h with
  | number hcs h => exact absurd h (not_isNumberText_append hcs (by decide) (by decide))
  | emptyArray h => exact ⟨_, rfl, .inl ⟨rfl, h⟩⟩
  | array h => exact ⟨_, rfl, .inr h⟩

-- No value begins with a closing bracket.
theorem not_reads_close {cs rest : List Char} {v : Value} : ¬ Reads blank (']' :: cs) v rest := by
  intro h
  cases h with
  | number hcs h => exact absurd h (not_isNumberText_append hcs (by decide) (by decide))

end Preflight.Json
