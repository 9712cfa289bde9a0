import Preflight.Toml.Token

/-!
Tokens of a text that is put together from the written forms of its tokens. A piece is a token as it
is written; where every piece is cut off as one token in front of what is behind it, the tokens of
the text are those of its pieces, and then those of the rest.
-/

namespace Preflight.Toml

/-! ## 1. Marks -/

/-- The length of a text in bytes. -/
def byteLength : List Char → Nat
  | [] => 0
  | c :: cs => c.utf8Size + byteLength cs

theorem byteLength_append (cs ds : List Char) :
    byteLength (cs ++ ds) = byteLength cs + byteLength ds := by
  induction cs with
  | nil => exact (Nat.zero_add _).symm
  | cons c cs ih => rw [List.cons_append, byteLength, byteLength, ih, Nat.add_assoc]

theorem marksFrom_cons {c : Char} (hc : c ≠ '\r') (o : Nat) (cs : List Char) :
    marksFrom o (c :: cs) = (o, c) :: marksFrom (o + c.utf8Size) cs := by
  rw [marksFrom]
  exact fun _ h _ => hc h

theorem marksFrom_append {w : List Char} (hw : '\r' ∉ w) (o : Nat) (rest : List Char) :
    marksFrom o (w ++ rest) = marksFrom o w ++ marksFrom (o + byteLength w) rest := by
  induction w generalizing o with
  | nil => rfl
  | cons c w ih =>
    obtain ⟨hc, hw⟩ := List.ne_and_not_mem_of_not_mem_cons hw
    rw [List.cons_append, marksFrom_cons (Ne.symm hc), marksFrom_cons (Ne.symm hc), ih hw,
      byteLength, Nat.add_assoc, List.cons_append]

theorem map_snd_marksFrom {w : List Char} (hw : '\r' ∉ w) (o : Nat) :
    (marksFrom o w).map Prod.snd = w := by
  induction w generalizing o with
  | nil => rfl
  | cons c w ih =>
    obtain ⟨hc, hw⟩ := List.ne_and_not_mem_of_not_mem_cons hw
    rw [marksFrom_cons (Ne.symm hc), List.map_cons, ih hw]

/-! ## 2. Runs -/

/-- A class of characters that no end of a line belongs to. -/
structure WithinLine (p : Char → Bool) : Prop where
  carriageReturn : p '\r' = false
  lineFeed : p '\n' = false

theorem WithinLine.not_mem {p : Char → Bool} (hp : WithinLine p) {w : List Char}
    (hw : ∀ c ∈ w, p c = true) : '\r' ∉ w :=
  fun h => nomatch hp.carriageReturn.symm.trans (hw _ h)

theorem head_marksFrom {p : Char → Bool} (hp : WithinLine p) {rest : List Char}
    (hrest : ∀ c ∈ rest.head?, p c = false) (o : Nat) :
    ∀ m ∈ (marksFrom o rest).head?, holds p m = false := by
  fun_cases marksFrom o rest
  case case1 => exact fun m hm => nomatch hm
  case case2 rest =>
    intro m hm
    cases hm
    exact hp.lineFeed
  case case3 c rest hne =>
    intro m hm
    cases hm
    exact hrest c rfl

section Run

variable {p : Char → Bool} (hp : WithinLine p) {w rest : List Char}
  (hw : ∀ c ∈ w, p c = true) (hrest : ∀ c ∈ rest.head?, p c = false) (o : Nat)

include hp hw hrest

/-- A run of a class ends where the text goes on with another character. -/
theorem run_marksFrom :
    (marksFrom o (w ++ rest)).takeWhile (holds p) = marksFrom o w ∧
      (marksFrom o (w ++ rest)).dropWhile (holds p) = marksFrom (o + byteLength w) rest := by
  have hall : ∀ m ∈ marksFrom o w, holds p m = true := by
    intro m hm
    have hmem := List.mem_map_of_mem (f := Prod.snd) hm
    rw [map_snd_marksFrom (hp.not_mem hw)] at hmem
    exact hw _ hmem
  rw [marksFrom_append (hp.not_mem hw), List.takeWhile_append_of_pos hall,
    List.dropWhile_append_of_pos hall]
  cases hmarks : marksFrom (o + byteLength w) rest with
  | nil => simp
  | cons m ms =>
    have hm : ¬holds p m = true := by
      rw [head_marksFrom hp hrest (o + byteLength w) m (by rw [hmarks]; rfl)]
      decide
    rw [List.takeWhile_cons_of_neg hm, List.dropWhile_cons_of_neg hm, List.append_nil]
    exact ⟨rfl, rfl⟩

end Run

/-! ## 3. Pieces -/

/-- A token and its written form. -/
structure Piece where
  text : List Char
  lexeme : Lexeme

/-- The piece is cut off as one token where a text goes on with `rest` behind it. -/
def Piece.IsCut (p : Piece) (rest : List Char) : Prop :=
  ∃ c cs, p.text = c :: cs ∧ c ≠ '\r' ∧ ∀ o, Toml.lexeme (o, c)
    (marksFrom (o + c.utf8Size) (cs ++ rest)) =
      .ok (p.lexeme, marksFrom (o + byteLength p.text) rest)

theorem lex_of_lexeme {m : Mark} {ms rest : List Mark} {l : Lexeme}
    (h : lexeme m ms = .ok (l, rest)) :
    lex (m :: ms) = ⟨⟨m.1, l⟩ :: (lex rest).tokens, (lex rest).fault⟩ := by
  rw [lex]
  split
  case h_1 f hf => cases hf.symm.trans h
  case h_2 l' rest' hok =>
    cases hok.symm.trans h
    rfl

theorem Piece.IsCut.lex_eq {p : Piece} {rest : List Char} (h : p.IsCut rest) (o : Nat) :
    lex (marksFrom o (p.text ++ rest)) =
      let more := lex (marksFrom (o + byteLength p.text) rest)
      ⟨⟨o, p.lexeme⟩ :: more.tokens, more.fault⟩ := by
  obtain ⟨c, cs, htext, hc, hlexeme⟩ := h
  rw [htext, List.cons_append, marksFrom_cons hc, lex_of_lexeme (hlexeme o), htext]

-- No token begins with the mark that may stand in front of a document.
theorem Piece.IsCut.marks_eq {p : Piece} {rest : List Char} (h : p.IsCut rest) :
    marks (p.text ++ rest) = marksFrom 0 (p.text ++ rest) := by
  obtain ⟨c, cs, htext, hc, hlexeme⟩ := h
  have hmark : c ≠ '\uFEFF' := by
    rintro rfl
    exact nomatch hlexeme 0
  rw [htext, List.cons_append, marks]
  exact fun _ heq => hmark (List.cons.inj heq).1

/-! ## 4. Kinds of pieces -/

theorem isCut_single {c : Char} {l : Lexeme} (h : single? c = some l) (rest : List Char) :
    Piece.IsCut ⟨[c], l⟩ rest := by
  refine ⟨c, [], rfl, ?_, fun o => ?_⟩
  · rintro rfl
    exact nomatch h
  · rw [lexeme]
    simp only [h]
    rfl

theorem withinLine_isLineBlank : WithinLine isLineBlank := ⟨by decide, by decide⟩

theorem withinLine_isCommentChar : WithinLine isCommentChar := ⟨by decide, by decide⟩

theorem withinLine_isWordChar : WithinLine isWordChar := ⟨by decide, by decide⟩

/-- A run of one class is one token where its first character begins a token of this class. -/
theorem isCut_run {p : Char → Bool} (hp : WithinLine p) {c : Char} {cs rest : List Char}
    (make : List Char → Lexeme) (hcs : ∀ d ∈ c :: cs, p d = true)
    (hrest : ∀ d ∈ rest.head?, p d = false)
    (hlexeme : ∀ o ms, lexeme (o, c) ms = .ok (make (run p (o, c) ms), ms.dropWhile (holds p))) :
    Piece.IsCut ⟨c :: cs, make (c :: cs)⟩ rest := by
  have hreturn := List.ne_and_not_mem_of_not_mem_cons (hp.not_mem hcs)
  have htail := (List.forall_mem_cons.mp hcs).2
  refine ⟨c, cs, rfl, Ne.symm hreturn.1, fun o => ?_⟩
  obtain ⟨htake, hdrop⟩ := run_marksFrom hp htail hrest (o + c.utf8Size)
  rw [hlexeme, hdrop, run, htake, map_snd_marksFrom hreturn.2, byteLength, Nat.add_assoc]

theorem isCut_blank {b rest : List Char} (hnil : b ≠ []) (hb : ∀ c ∈ b, isLineBlank c = true)
    (hrest : ∀ c ∈ rest.head?, isLineBlank c = false) : Piece.IsCut ⟨b, .blank b⟩ rest := by
  obtain ⟨c, cs, rfl⟩ := List.exists_cons_of_ne_nil hnil
  have hc : c = ' ' ∨ c = '\t' := by
    simpa [isLineBlank] using hb c List.mem_cons_self
  refine isCut_run withinLine_isLineBlank .blank hb hrest fun o ms => ?_
  rcases hc with rfl | rfl
  · rfl
  · rfl

theorem isCut_comment {cs rest : List Char} (hcs : ∀ c ∈ cs, isCommentChar c = true)
    (hrest : ∀ c ∈ rest.head?, isCommentChar c = false) :
    Piece.IsCut ⟨'#' :: cs, .comment⟩ rest := by
  have hall : ∀ c ∈ '#' :: cs, isCommentChar c = true :=
    List.forall_mem_cons.mpr ⟨by decide, hcs⟩
  exact isCut_run withinLine_isCommentChar (fun _ => .comment) hall hrest fun o ms => rfl

theorem toNat_lt_of_isWordChar {c : Char} (h : isWordChar c = true) : c.toNat < 128 := by
  have hle : ∀ {n : UInt32}, c.val ≤ n → n.toNat < 128 → c.toNat < 128 := fun hc hn =>
    Nat.lt_of_le_of_lt (UInt32.le_iff_toNat_le.mp hc) hn
  simp only [isWordChar, Char.isAlphanum, Bool.or_eq_true, beq_iff_eq] at h
  rcases h with ((halpha | hdigit) | rfl) | rfl
  · rcases (Bool.or_eq_true ..).mp halpha with hupper | hlower
    · exact hle (of_decide_eq_true hupper).2 (by decide)
    · exact hle (of_decide_eq_true ((Bool.and_eq_true ..).mp hlower).2) (by decide)
  · exact hle (of_decide_eq_true ((Bool.and_eq_true ..).mp hdigit).2) (by decide)
  · decide
  · decide

theorem lexeme_of_isWordChar {c : Char} (h : isWordChar c = true) (o : Nat) (ms : List Mark) :
    lexeme (o, c) ms = .ok (.word (run isWordChar (o, c) ms), ms.dropWhile (holds isWordChar)) := by
  have hascii : ∀ k : Fin 128, isWordChar (Char.ofNat k) = true → single? (Char.ofNat k) = none ∧
      isLineBlank (Char.ofNat k) = false ∧ Char.ofNat k ≠ '#' ∧ Char.ofNat k ≠ '\'' ∧
      Char.ofNat k ≠ '"' := by
    decide +kernel
  have hc := hascii ⟨c.toNat, toNat_lt_of_isWordChar h⟩
  rw [Char.ofNat_toNat] at hc
  obtain ⟨hsingle, hblank, hhash, hquote, hdouble⟩ := hc h
  rw [lexeme]
  simp only [hsingle, hblank, Bool.false_eq_true, if_false, if_neg hhash, if_neg hquote,
    if_neg hdouble, if_pos h]

theorem isCut_word {w rest : List Char} (hnil : w ≠ []) (hw : ∀ c ∈ w, isWordChar c = true)
    (hrest : ∀ c ∈ rest.head?, isWordChar c = false) : Piece.IsCut ⟨w, .word w⟩ rest := by
  obtain ⟨c, cs, rfl⟩ := List.exists_cons_of_ne_nil hnil
  exact isCut_run withinLine_isWordChar .word hw hrest
    fun o ms => lexeme_of_isWordChar (hw c List.mem_cons_self) o ms

/-! ## 5. Strings without escapes -/

/-- The character in which a string is enclosed: literal strings stand between apostrophes. -/
def delimiter (literal : Bool) : Char := if literal then '\'' else '"'

theorem delimiter_ne (literal : Bool) : delimiter literal ≠ '\r' ∧ delimiter literal ≠ '\n' := by
  cases literal <;> decide

/-- A character that stands for itself in a string of one line. -/
structure IsPlain (literal : Bool) (c : Char) : Prop where
  isStringChar : isStringChar c = true
  ne_delimiter : c ≠ delimiter literal
  ne_backslash : literal = false → c ≠ '\\'

instance (literal : Bool) (c : Char) : Decidable (IsPlain literal c) :=
  decidable_of_iff (Toml.isStringChar c = true ∧ c ≠ delimiter literal ∧
      (literal = false → c ≠ '\\'))
    ⟨fun ⟨h, hdelimiter, hslash⟩ => ⟨h, hdelimiter, hslash⟩,
      fun h => ⟨h.isStringChar, h.ne_delimiter, h.ne_backslash⟩⟩

theorem isPlain_of_all {literal : Bool} {s : List Char}
    (h : s.all (fun c => decide (IsPlain literal c)) = true) : ∀ c ∈ s, IsPlain literal c :=
  fun c hc => of_decide_eq_true (List.all_eq_true.mp h c hc)

theorem IsPlain.ne_line {literal : Bool} {c : Char} (h : IsPlain literal c) :
    c ≠ '\r' ∧ c ≠ '\n' := by
  constructor
  · rintro rfl
    exact nomatch h.isStringChar
  · rintro rfl
    exact nomatch h.isStringChar

/-- How a string of one line that begins at an offset is quoted. -/
def styleAt (literal : Bool) (offset : Nat) : Style := ⟨delimiter literal, !literal, false, offset⟩

section Quoted

variable {literal : Bool} {offset : Nat} {mode : Mode}

theorem advance_last (hmode : mode = .opening ∨ mode = .plain) (o : Nat) (text : List Char) :
    advance (styleAt literal offset) mode (o, delimiter literal) text = .ok (.last text) := by
  rcases hmode with rfl | rfl
  · cases literal <;> rfl
  · cases literal <;> rfl

theorem advance_plain (hmode : mode = .opening ∨ mode = .plain) {c : Char}
    (hc : IsPlain literal c) (o : Nat) (text : List Char) :
    advance (styleAt literal offset) mode (o, c) text = .ok (.on .plain (c :: text)) := by
  have hescape : ¬((styleAt literal offset).escapes && decide (c = '\\')) = true := by
    intro h
    obtain ⟨hliteral, hslash⟩ := Bool.and_eq_true_iff.mp h
    exact hc.ne_backslash (by simpa [styleAt] using hliteral) (of_decide_eq_true hslash)
  have hplain : plainChar (styleAt literal offset) (o, c) text = .ok (.on .plain (c :: text)) := by
    have hdelimiter : c ≠ (styleAt literal offset).delimiter := hc.ne_delimiter
    rw [plainChar, if_neg hc.ne_line.2, if_neg hdelimiter, if_neg hescape, if_pos hc.isStringChar]
  rcases hmode with rfl | rfl
  · rw [← hplain]
    rfl
  · rw [← hplain]
    rfl

theorem readString_plain (hmode : mode = .opening ∨ mode = .plain) {s : List Char}
    (hs : ∀ c ∈ s, IsPlain literal c) (o : Nat) (text rest : List Char) :
    readString (styleAt literal offset) mode text
        (marksFrom o (s ++ delimiter literal :: rest)) =
      .ok (text.reverse ++ s, marksFrom (o + byteLength (s ++ [delimiter literal])) rest) := by
  induction s generalizing mode o text with
  | nil =>
    rw [List.nil_append, marksFrom_cons (delimiter_ne literal).1, readString, advance_last hmode,
      List.append_nil]
    rfl
  | cons c s ih =>
    obtain ⟨hc, hs⟩ := List.forall_mem_cons.mp hs
    rw [List.cons_append, marksFrom_cons hc.ne_line.1, readString, advance_plain hmode hc]
    dsimp only
    rw [ih (.inr rfl) hs, List.reverse_cons, List.append_assoc, List.cons_append,
      List.cons_append, byteLength, Nat.add_assoc]
    rfl

end Quoted

theorem startsWith_marksFrom {literal : Bool} {rest : List Char}
    (hrest : ∀ c ∈ rest.head?, c ≠ delimiter literal) (o : Nat) :
    startsWith (delimiter literal) (marksFrom o rest) = false := by
  have hline := delimiter_ne literal
  have hp : WithinLine (· == delimiter literal) :=
    ⟨beq_eq_false_iff_ne.mpr (Ne.symm hline.1), beq_eq_false_iff_ne.mpr (Ne.symm hline.2)⟩
  have hhead := head_marksFrom hp (fun c hc => beq_eq_false_iff_ne.mpr (hrest c hc)) o
  cases hmarks : marksFrom o rest with
  | nil => rfl
  | cons m ms => exact hhead m (by rw [hmarks]; rfl)

theorem quoted_plain {literal : Bool} {s rest : List Char} (hs : ∀ c ∈ s, IsPlain literal c)
    (hrest : ∀ c ∈ rest.head?, c ≠ delimiter literal) (offset o : Nat) :
    quoted (delimiter literal) (!literal) offset (marksFrom o (s ++ delimiter literal :: rest)) =
      .ok (.quoted s false, marksFrom (o + byteLength (s ++ [delimiter literal])) rest) := by
  have hreturn := (delimiter_ne literal).1
  cases s with
  | nil =>
    have hstart : startsWith (delimiter literal)
        ((o, delimiter literal) :: marksFrom (o + (delimiter literal).utf8Size) rest) = true :=
      beq_self_eq_true _
    rw [List.nil_append, marksFrom_cons hreturn, quoted, if_pos hstart]
    rw [List.drop_succ_cons, List.drop_zero, startsWith_marksFrom hrest]
    rfl
  | cons c s =>
    have hstart : startsWith (delimiter literal)
        (marksFrom o (c :: s ++ delimiter literal :: rest)) = false :=
      startsWith_marksFrom (fun d hd => by cases hd; exact (hs _ List.mem_cons_self).ne_delimiter) o
    have hbody : body (styleAt literal offset) (marksFrom o (c :: s ++ delimiter literal :: rest)) =
        .ok (.quoted (c :: s) false,
          marksFrom (o + byteLength (c :: s ++ [delimiter literal])) rest) := by
      rw [body, readString_plain (.inl rfl) hs]
      rfl
    rw [quoted, hstart, if_neg (by decide)]
    exact hbody

theorem isCut_quoted {literal : Bool} {s rest : List Char} (hs : ∀ c ∈ s, IsPlain literal c)
    (hrest : ∀ c ∈ rest.head?, c ≠ delimiter literal) :
    Piece.IsCut ⟨delimiter literal :: (s ++ [delimiter literal]), .quoted s false⟩ rest := by
  refine ⟨_, _, rfl, (delimiter_ne literal).1, fun o => ?_⟩
  have hlexeme : ∀ ms, lexeme (o, delimiter literal) ms =
      quoted (delimiter literal) (!literal) o ms := by
    intro ms
    cases literal <;> rfl
  rw [hlexeme, List.append_assoc, List.singleton_append, quoted_plain hs hrest, byteLength,
    Nat.add_assoc]

/-! ## 6. Rows of pieces -/

def textOf : List Piece → List Char
  | [] => []
  | p :: ps => p.text ++ textOf ps

/-- The tokens of pieces in a row, of which the first begins at an offset. -/
def tokensFrom (o : Nat) : List Piece → List Token
  | [] => []
  | p :: ps => ⟨o, p.lexeme⟩ :: tokensFrom (o + byteLength p.text) ps

/-- Each piece is cut off in front of what is behind it. -/
def AreCut : List Piece → List Char → Prop
  | [], _ => True
  | p :: ps, rest => p.IsCut (textOf ps ++ rest) ∧ AreCut ps rest

theorem textOf_append (ps qs : List Piece) : textOf (ps ++ qs) = textOf ps ++ textOf qs := by
  induction ps with
  | nil => rfl
  | cons p ps ih => rw [List.cons_append, textOf, textOf, ih, List.append_assoc]

theorem tokensFrom_append (o : Nat) (ps qs : List Piece) :
    tokensFrom o (ps ++ qs) = tokensFrom o ps ++ tokensFrom (o + byteLength (textOf ps)) qs := by
  induction ps generalizing o with
  | nil => rfl
  | cons p ps ih =>
    rw [List.cons_append, tokensFrom, tokensFrom, ih, textOf, byteLength_append, Nat.add_assoc,
      List.cons_append]

theorem areCut_append {ps qs : List Piece} {rest : List Char} :
    AreCut (ps ++ qs) rest ↔ AreCut ps (textOf qs ++ rest) ∧ AreCut qs rest := by
  induction ps with
  | nil => exact (and_iff_right trivial).symm
  | cons p ps ih =>
    rw [List.cons_append, AreCut, AreCut, ih, textOf_append, List.append_assoc, and_assoc]

/-- The tokens of a text are those of the pieces at its front and then those of the rest. -/
theorem lex_pieces {ps : List Piece} {rest : List Char} (h : AreCut ps rest) (o : Nat) :
    lex (marksFrom o (textOf ps ++ rest)) =
      let more := lex (marksFrom (o + byteLength (textOf ps)) rest)
      ⟨tokensFrom o ps ++ more.tokens, more.fault⟩ := by
  induction ps generalizing o with
  | nil => rfl
  | cons p ps ih =>
    obtain ⟨hp, hps⟩ := h
    rw [textOf, List.append_assoc, hp.lex_eq, ih hps, byteLength_append, Nat.add_assoc]
    rfl

/-- The tokens of a document whose front is written in pieces. -/
theorem lex_marks {ps : List Piece} {rest : List Char} (hnil : ps ≠ []) (h : AreCut ps rest) :
    lex (marks (textOf ps ++ rest)) =
      let more := lex (marksFrom (byteLength (textOf ps)) rest)
      ⟨tokensFrom 0 ps ++ more.tokens, more.fault⟩ := by
  obtain ⟨p, ps, rfl⟩ := List.exists_cons_of_ne_nil hnil
  have hmarks : marks (textOf (p :: ps) ++ rest) = marksFrom 0 (textOf (p :: ps) ++ rest) := by
    rw [textOf, List.append_assoc]
    exact h.1.marks_eq
  rw [hmarks, lex_pieces h, Nat.zero_add]

end Preflight.Toml
