import Preflight.Proofs.Toml.Parsing
import Preflight.Proofs.Toml.Written

/-!
Reading what was written. Blanks, comments and empty lines leave nothing behind; a row adds its key
with its item to the pairs of the section, if an integer has sixty-four bits; a title begins the
next section. Behind such a front, a further key or table is read whatever follows it.
-/

namespace Preflight.Toml

open Parse

variable {fin : Finish} {t : Token} {ts behind after : List Token} {o bound : Nat}

/-! ## 1. Layout -/

theorem Blanks.skipBlank_eq {b : Blanks} (h : skipBlank fin ts = .ok ((), ts)) :
    skipBlank fin (tokensFrom o b.pieces ++ ts) = .ok ((), ts) := by
  rw [Blanks.pieces]
  split
  case isTrue => exact h
  case isFalse => exact skipBlank_blank

theorem Blanks.settles {b : Blanks} (h : AtContent fin ts) :
    Settles fin (tokensFrom o b.pieces ++ ts) ts := by
  refine ⟨h, fun bound hbound => ?_⟩
  cases bound with
  | zero =>
    have hnil : tokensFrom o b.pieces ++ ts = [] :=
      List.length_eq_zero_iff.mp (Nat.le_zero.mp hbound)
    rw [hnil, (List.append_eq_nil_iff.mp hnil).2]
    rfl
  | succ bound =>
    rw [skipLines, bind_of_ok (Blanks.skipBlank_eq h.skipBlank), ← h.skipLines (bound + 1),
      skipLines, bind_of_ok h.skipBlank]

theorem Blanks.eat_ne {b : Blanks} {l : Lexeme} (hl : l.isContent = true)
    (h : eat l fin ts = .ok (false, ts)) :
    eat l fin (tokensFrom o b.pieces ++ ts) = .ok (false, tokensFrom o b.pieces ++ ts) := by
  rw [Blanks.pieces]
  split
  case isTrue => exact h
  case isFalse =>
    refine Parse.eat_ne fun hblank => ?_
    rw [← hblank] at hl
    exact Bool.false_ne_true hl

namespace Ending

variable {e : Ending} {l : Lexeme}

-- It does not matter where the tokens of an ending are.
theorem tokensFrom_pieces (e : Ending) (o : Nat) :
    tokensFrom o e.pieces = tokensFrom o e.blanks.pieces ∨
      ∃ o', tokensFrom o e.pieces = tokensFrom o e.blanks.pieces ++ [⟨o', .comment⟩] := by
  rw [pieces]
  split
  case h_1 => exact .inl (by rw [List.append_nil])
  case h_2 => exact .inr ⟨_, tokensFrom_append o _ _⟩

/-- An ending does not begin with content, and neither does what stands behind the line. -/
theorem eat_ne (h : LineEnds fin ts behind) (hl : l.isContent = true) :
    eat l fin (tokensFrom o e.pieces ++ ts) = .ok (false, tokensFrom o e.pieces ++ ts) := by
  have hlayout : ∀ l', l'.isContent = false → l ≠ l' := by
    rintro l' hl' rfl
    exact Bool.false_ne_true (hl'.symm.trans hl)
  obtain htokens | ⟨o', htokens⟩ := tokensFrom_pieces e o
  · rw [htokens]
    exact Blanks.eat_ne hl (h.eat_ne (hlayout _ rfl))
  · rw [htokens, List.append_assoc]
    exact Blanks.eat_ne hl (Parse.eat_ne (hlayout _ rfl).symm)

theorem skipBlank_comment : skipBlank fin (⟨o, .comment⟩ :: ts) = .ok ((), ⟨o, .comment⟩ :: ts) :=
  skipBlank_of_ne fun _ h => nomatch h

theorem restOfLine_eq (h : LineEnds fin ts behind) :
    restOfLine fin (tokensFrom o e.pieces ++ ts) = .ok ((), behind) := by
  obtain htokens | ⟨o', htokens⟩ := tokensFrom_pieces e o
  · rw [htokens, restOfLine, bind_of_ok (Blanks.skipBlank_eq h.skipBlank),
      bind_of_ok h.comment_eq_false]
    exact h.endOfLine
  · rw [htokens, List.append_assoc, List.singleton_append, restOfLine,
      bind_of_ok (Blanks.skipBlank_eq skipBlank_comment), bind_of_ok h.comment_eq_true]
    rfl

theorem skipLines_eq (h : LineEnds fin ts behind) :
    skipLines (bound + 1) fin (tokensFrom o e.pieces ++ ts) = skipLines bound fin behind := by
  obtain htokens | ⟨o', htokens⟩ := tokensFrom_pieces e o
  · rw [htokens, ← h.skipLines, skipLines, bind_of_ok (Blanks.skipBlank_eq h.skipBlank),
      bind_of_ok h.skipBlank]
  · have hnewline : Lexeme.comment ≠ .newline := by decide
    rw [htokens, List.append_assoc, List.singleton_append, skipLines,
      bind_of_ok (Blanks.skipBlank_eq skipBlank_comment), bind_of_ok (Parse.eat_ne hnewline),
      if_neg (by decide), bind_of_ok h.comment_eq_true, if_pos rfl]

theorem settles (h : LineEnds fin ts behind) (hbehind : Settles fin behind after) :
    Settles fin (tokensFrom o e.pieces ++ ts) after := by
  refine ⟨hbehind.1, fun bound hbound => ?_⟩
  cases bound with
  | zero =>
    have hnil : tokensFrom o e.pieces ++ ts = [] :=
      List.length_eq_zero_iff.mp (Nat.le_zero.mp hbound)
    obtain ⟨-, rfl⟩ := List.append_eq_nil_iff.mp hnil
    cases h
    rw [hnil]
    exact hbehind.2 0 (Nat.le_refl _)
  | succ bound =>
    have hlength := h.length_le
    rw [List.length_append] at hbound
    rw [skipLines_eq h]
    exact hbehind.2 bound (by omega)

end Ending

/-! ## 2. Keys and items -/

theorem Key.key_eq (k : Key) : key fin (⟨o, k.piece.lexeme⟩ :: ts) = .ok (k.name, ts) := by
  cases k with
  | bare => exact key_word
  | quoted => exact key_quoted

-- No part of a key follows where there is no period.
theorem moreKeys_eq {b : Blanks} (hcontent : t.lexeme.isContent = true)
    (hperiod : t.lexeme ≠ .period) :
    moreKeys (bound + 1) fin (tokensFrom o b.pieces ++ t :: ts) = .ok ([], t :: ts) := by
  have hblank : skipBlank fin (t :: ts) = .ok ((), t :: ts) := (AtContent.cons hcontent).skipBlank
  rw [moreKeys, bind_of_ok (Blanks.skipBlank_eq hblank), bind_of_ok (eat_ne hperiod),
    if_neg (by decide)]
  rfl

theorem Key.dottedKey_eq {k : Key} {b : Blanks} {o' : Nat} (hcontent : t.lexeme.isContent = true)
    (hperiod : t.lexeme ≠ .period) :
    dottedKey fin (⟨o, k.piece.lexeme⟩ :: (tokensFrom o' b.pieces ++ t :: ts)) =
      .ok ([k.name], t :: ts) := by
  have hleft : ∃ n, left fin (tokensFrom o' b.pieces ++ t :: ts) =
      .ok (n + 1, tokensFrom o' b.pieces ++ t :: ts) :=
    ⟨(tokensFrom o' b.pieces).length + ts.length, by
      show Except.ok ((tokensFrom o' b.pieces ++ t :: ts).length, _) = _
      rw [List.length_append, List.length_cons]
      rfl⟩
  obtain ⟨n, hleft⟩ := hleft
  rw [dottedKey, bind_of_ok k.key_eq, bind_of_ok hleft, bind_of_ok (moreKeys_eq hcontent hperiod)]
  rfl

namespace Datum

/-- The value that a line gives, at an offset. -/
def value (o : Nat) : Datum → Value
  | integer n => .integer o n
  | text s => .text o s

/-- A line can give the value: integers have sixty-four bits. -/
def IsFit : Datum → Prop
  | integer n => IsWord n
  | text _ => True

end Datum

section Decimal

variable {c : Char} {ds : List Char} (hc : c = '-' ∨ c.isDigit = true)
  (hds : ∀ d ∈ ds, d.isDigit = true)

include hc in
theorem decimal_ne_cons {d : Char} (hd : d.isDigit = false) (hminus : d ≠ '-') (cs : List Char) :
    c :: ds ≠ d :: cs := by
  intro h
  cases h
  exact hc.elim hminus fun h => nomatch hd.symm.trans h

include hc in
theorem wordValue_decimal : wordValue o (c :: ds) = numberOrDate o (c :: ds) := by
  have hne : ∀ d cs, d.isDigit = false → d ≠ '-' → c :: ds ≠ d :: cs :=
    fun d cs hd hminus => decimal_ne_cons hc hd hminus cs
  have hspecial : ¬(decide (c :: ds = ['i', 'n', 'f']) || decide (c :: ds = ['n', 'a', 'n'])) =
      true := by
    rw [decide_eq_false (hne 'i' _ (by decide) (by decide)),
      decide_eq_false (hne 'n' _ (by decide) (by decide))]
    decide
  have hfront : (decide (c = '-') || c.isDigit) = true := by
    simpa using hc
  rw [wordValue, if_neg (hne 't' _ (by decide) (by decide)),
    if_neg (hne 'f' _ (by decide) (by decide)), if_neg hspecial]
  exact if_pos hfront

include hc hds

theorem not_mem_decimal {d : Char} (hd : d.isDigit = false) (hminus : d ≠ '-') : d ∉ c :: ds := by
  intro hmem
  rcases List.mem_cons.mp hmem with rfl | hmem
  · exact hc.elim hminus fun h => nomatch hd.symm.trans h
  · exact nomatch hd.symm.trans (hds d hmem)

-- Behind the first character there is no sign, and nowhere a letter.
theorem isDateWord_decimal : isDateWord (c :: ds) = false := by
  have hupper := not_mem_decimal hc hds (d := 'T') (by decide) (by decide)
  have hlower := not_mem_decimal hc hds (d := 't') (by decide) (by decide)
  have hminus : '-' ∉ ds := fun hmem => nomatch hds '-' hmem
  simp [isDateWord, hupper, hlower, hminus]

theorem numberOrDate_decimal (hcolon : eat .colon fin ts = .ok (false, ts)) :
    numberOrDate o (c :: ds) fin ts = number o o (c :: ds) fin ts := by
  rw [numberOrDate, isDateWord_decimal hc hds, if_neg (by decide), bind_of_ok hcolon,
    if_neg (by decide)]

theorem basePrefixed?_decimal : basePrefixed? (c :: ds) = none := by
  rw [basePrefixed?]
  all_goals
    intro r h
    cases h
    exact nomatch hds _ List.mem_cons_self

theorem number_decimal (hperiod : eat .period fin ts = .ok (false, ts)) :
    number o o (c :: ds) fin ts =
      (readInteger decimal o (c :: ds)).map fun n => (.integer o n, ts) := by
  have hexponent : holdsExponent (c :: ds) = false := by
    have hlower := not_mem_decimal hc hds (d := 'e') (by decide) (by decide)
    have hupper := not_mem_decimal hc hds (d := 'E') (by decide) (by decide)
    simp [holdsExponent, hlower, hupper]
  have hword : ∀ cs, 'n' ∈ cs → c :: ds ≠ cs := by
    rintro cs hcs rfl
    exact not_mem_decimal hc hds (by decide) (by decide) hcs
  have hnan : ¬(decide (c :: ds = ['n', 'a', 'n']) || decide (c :: ds = ['-', 'n', 'a', 'n'])) =
      true := by
    rw [decide_eq_false (hword _ (by decide)), decide_eq_false (hword _ (by decide))]
    decide
  rw [number, basePrefixed?_decimal hc hds]
  dsimp only
  rw [hexponent, if_neg (by decide), bind_of_ok hperiod, if_neg (by decide),
    if_neg (hword _ (by decide)), if_neg (hword _ (by decide)), if_neg hnan]
  show ((liftM (readInteger decimal o (c :: ds)) : Parse Int) >>= _) fin ts = _
  cases readInteger decimal o (c :: ds) with
  | error f => rfl
  | ok n => rfl

end Decimal

/-- A value is read back, with its offset, exactly if it is fit. -/
theorem Item.value_eq_ok_iff {i : Item} (hcolon : eat .colon fin ts = .ok (false, ts))
    (hperiod : eat .period fin ts = .ok (false, ts)) {r : Value × List Token} :
    value fin (⟨o, i.piece.lexeme⟩ :: ts) = .ok r ↔
      i.datum.IsFit ∧ r = (i.datum.value o, ts) := by
  have hleft : left fin (⟨o, i.piece.lexeme⟩ :: ts) = .ok (ts.length + 1, _) := rfl
  rw [value, bind_of_ok hleft, valueWithin, bind_of_ok next_cons]
  cases i with
  | integer n =>
    obtain ⟨c, ds, htext, hc, hds⟩ := toList_toString_int n
    have hread := readInteger_toString n o
    have hword : wordValue o (toString n).toList fin ts =
        if IsWord n then .ok (.integer o n, ts) else .error (.here .badNumber o) := by
      rw [htext] at hread ⊢
      rw [wordValue_decimal hc, numberOrDate_decimal hc hds hcolon,
        number_decimal hc hds hperiod, hread]
      split
      · rfl
      · rfl
    show wordValue o (toString n).toList fin ts = _ ↔ IsWord n ∧ _
    rw [hword]
    split
    case isTrue hfit =>
      rw [and_iff_right hfit, Except.ok.injEq, eq_comm]
      rfl
    case isFalse hfit => exact ⟨fun h => (nomatch h), fun h => absurd h.1 hfit⟩
  | text literal s hs =>
    have hvalue : ∀ a : Value × List Token, Except.ok a = (.ok r : Except Fault _) ↔ r = a :=
      fun a => ⟨fun h => (Except.ok.inj h).symm, fun h => congrArg _ h.symm⟩
    exact (hvalue _).trans (and_iff_right trivial).symm

/-! ## 3. Pairs -/

/-- The key of a row with its value, where the row is written at an offset. -/
def Row.pair (r : Row) (o : Nat) : String × Value :=
  (r.key.name, r.item.datum.value (o + byteLength (textOf r.front)))

/-- The pairs that a line gives, where it is written at an offset. -/
def Entry.pairs (o : Nat) : Entry → Pairs
  | empty _ => []
  | row r => [r.pair o]

/-- The pairs that lines give, where the first one is written at an offset. -/
def pairsFrom (o : Nat) : List Entry → Pairs
  | [] => []
  | e :: es => e.pairs o ++ pairsFrom (o + byteLength (textOf e.pieces) + 1) es

/-- The key that a line sets, with what it says of it. -/
def Entry.rows : Entry → List (String × Datum)
  | empty _ => []
  | row r => [(r.key.name, r.item.datum)]

/-- The keys that lines set, with what they say of them. -/
def rows (es : List Entry) : List (String × Datum) := es.flatMap Entry.rows

theorem map_fst_pairsFrom (o : Nat) (es : List Entry) :
    (pairsFrom o es).map Prod.fst = (rows es).map Prod.fst := by
  induction es generalizing o with
  | nil => rfl
  | cons e es ih =>
    rw [pairsFrom, rows, List.flatMap_cons, List.map_append, List.map_append, ih, rows]
    cases e with
    | empty e => rfl
    | row r => rfl

theorem mem_pairsFrom {o : Nat} {es : List Entry} {k : String} {v : Value}
    (h : (k, v) ∈ pairsFrom o es) : ∃ d o', (k, d) ∈ rows es ∧ v = d.value o' := by
  induction es generalizing o with
  | nil => exact nomatch h
  | cons e es ih =>
    rw [rows, List.flatMap_cons]
    rcases List.mem_append.mp h with h | h
    · cases e with
      | empty e => exact nomatch h
      | row r =>
        cases List.mem_singleton.mp h
        exact ⟨_, _, List.mem_cons_self, rfl⟩
    · obtain ⟨d, o', hd, hv⟩ := ih h
      exact ⟨d, o', List.mem_append_right _ hd, hv⟩

theorem exists_mem_pairsFrom {o : Nat} {es : List Entry} {k : String} {d : Datum}
    (h : (k, d) ∈ rows es) : ∃ o', (k, d.value o') ∈ pairsFrom o es := by
  induction es generalizing o with
  | nil => exact nomatch h
  | cons e es ih =>
    rw [rows, List.flatMap_cons] at h
    rcases List.mem_append.mp h with h | h
    · cases e with
      | empty e => exact nomatch h
      | row r =>
        cases List.mem_singleton.mp h
        exact ⟨_, List.mem_append_left _ List.mem_cons_self⟩
    · obtain ⟨o', hd⟩ := ih h
      exact ⟨o', List.mem_append_right _ hd⟩

namespace Row

variable {r : Row}

-- Of the offsets in a row, that of its item is the one that is kept.
theorem tokensFrom_pieces (r : Row) (o : Nat) : ∃ o₁ o₂ o₃ o₄ o₅, tokensFrom o r.pieces =
    tokensFrom o r.indent.pieces ++ ⟨o₁, r.key.piece.lexeme⟩ :: (tokensFrom o₂ r.left.pieces ++
      ⟨o₃, .equals⟩ :: (tokensFrom o₄ r.right.pieces ++
        ⟨o + byteLength (textOf r.front), r.item.piece.lexeme⟩ ::
          tokensFrom o₅ r.ending.pieces)) := by
  have hfront : ∃ o₁ o₂ o₃ o₄, tokensFrom o r.front =
      tokensFrom o r.indent.pieces ++ ⟨o₁, r.key.piece.lexeme⟩ :: (tokensFrom o₂ r.left.pieces ++
        ⟨o₃, .equals⟩ :: tokensFrom o₄ r.right.pieces) := by
    rw [front]
    simp only [tokensFrom_append, tokensFrom]
    exact ⟨_, _, _, _, rfl⟩
  obtain ⟨o₁, o₂, o₃, o₄, hfront⟩ := hfront
  refine ⟨o₁, o₂, o₃, o₄, o + byteLength (textOf r.front) + byteLength r.item.piece.text, ?_⟩
  rw [pieces, tokensFrom_append, hfront, tokensFrom]
  simp only [List.append_assoc, List.cons_append]

theorem pair_eq_ok_iff {o₁ o₂ o₃ o₄ o₅ o₆ : Nat} {pairs : Pairs} {res : Pairs × List Token}
    (h : LineEnds fin ts behind) :
    Parse.pair pairs fin (⟨o₁, r.key.piece.lexeme⟩ :: (tokensFrom o₂ r.left.pieces ++
      ⟨o₃, .equals⟩ :: (tokensFrom o₄ r.right.pieces ++ ⟨o₅, r.item.piece.lexeme⟩ ::
        (tokensFrom o₆ r.ending.pieces ++ ts)))) = .ok res ↔
      r.item.datum.IsFit ∧ res = (pairs ++ [(r.key.name, r.item.datum.value o₅)], behind) := by
  have hequals : AtContent fin (⟨o₃, .equals⟩ :: (tokensFrom o₄ r.right.pieces ++
      ⟨o₅, r.item.piece.lexeme⟩ :: (tokensFrom o₆ r.ending.pieces ++ ts))) := .cons rfl
  have hitem : AtContent fin (⟨o₅, r.item.piece.lexeme⟩ :: (tokensFrom o₆ r.ending.pieces ++ ts)) :=
    .cons r.item.isContent_piece
  have hperiod : Lexeme.equals ≠ .period := by decide
  rw [Parse.pair, bind_of_ok (Key.dottedKey_eq rfl hperiod), bind_of_ok hequals.skipBlank,
    bind_of_ok expect_eq, bind_of_ok (Blanks.skipBlank_eq hitem.skipBlank), bind_eq_ok]
  simp only [Item.value_eq_ok_iff (Ending.eat_ne h rfl) (Ending.eat_ne h rfl), Prod.mk.injEq]
  constructor
  · rintro ⟨v, rest, ⟨hfit, rfl, rfl⟩, hok⟩
    rw [bind_of_ok (Ending.restOfLine_eq h)] at hok
    cases hok
    exact ⟨hfit, rfl⟩
  · rintro ⟨hfit, rfl⟩
    refine ⟨_, _, ⟨hfit, rfl, rfl⟩, ?_⟩
    rw [bind_of_ok (Ending.restOfLine_eq h)]
    rfl

end Row

/-- The tokens of a title. -/
theorem Title.tokensFrom_pieces (t : Title) (o : Nat) : ∃ o₁ o₂ o₃ o₄ o₅ o₆, tokensFrom o t.pieces =
    tokensFrom o t.indent.pieces ++ ⟨o₁, .leftBracket⟩ :: (tokensFrom o₂ t.before.pieces ++
      ⟨o₃, t.key.piece.lexeme⟩ :: (tokensFrom o₄ t.behind.pieces ++
        ⟨o₅, .rightBracket⟩ :: tokensFrom o₆ t.ending.pieces)) := by
  rw [pieces]
  simp only [tokensFrom_append, tokensFrom]
  exact ⟨_, _, _, _, _, _, rfl⟩

theorem Key.lexeme_ne_leftBracket (k : Key) : k.piece.lexeme ≠ .leftBracket := by
  cases k with
  | bare => exact fun h => nomatch h
  | quoted => exact fun h => nomatch h

theorem Title.header_eq {t : Title} {o₁ o₂ o₃ o₄ o₅ o₆ : Nat} (h : LineEnds fin ts behind) :
    header fin (⟨o₁, .leftBracket⟩ :: (tokensFrom o₂ t.before.pieces ++
      ⟨o₃, t.key.piece.lexeme⟩ :: (tokensFrom o₄ t.behind.pieces ++ ⟨o₅, .rightBracket⟩ ::
        (tokensFrom o₆ t.ending.pieces ++ ts)))) =
      .ok (⟨o₁, [t.key.name], false, []⟩, behind) := by
  have hcurrent : ∀ ts, current fin (⟨o₁, .leftBracket⟩ :: ts) = .ok (o₁, _) := fun _ => rfl
  have hkey : ∀ ts, AtContent fin (⟨o₃, t.key.piece.lexeme⟩ :: ts) :=
    fun _ => .cons t.key.isContent_piece
  have hperiod : Lexeme.rightBracket ≠ .period := by decide
  rw [header, bind_of_ok (hcurrent _), bind_of_ok expect_eq,
    bind_of_ok (Blanks.eat_ne rfl (eat_ne t.key.lexeme_ne_leftBracket)),
    bind_of_ok (Blanks.skipBlank_eq (hkey _).skipBlank), bind_of_ok (Key.dottedKey_eq rfl hperiod),
    bind_of_ok expect_eq, if_neg (by decide)]
  exact bind_of_ok (Ending.restOfLine_eq h)

/-! ## 4. Single lines -/

section Lines

variable {begun : Section} {res : List Section × List Token}

theorem sectionsWithin_row {r : Row} (h : LineEnds fin ts behind) :
    sectionsWithin (bound + 1) begun fin (tokensFrom o r.pieces ++ ts) = .ok res ↔
      r.item.datum.IsFit ∧ sectionsWithin bound
        { begun with pairs := begun.pairs ++ [r.pair o] } fin behind = .ok res := by
  obtain ⟨o₁, o₂, o₃, o₄, o₅, htokens⟩ := Row.tokensFrom_pieces r o
  have hkey : ∀ ts, AtContent fin (⟨o₁, r.key.piece.lexeme⟩ :: ts) :=
    fun _ => .cons r.key.isContent_piece
  rw [htokens]
  simp only [List.append_assoc, List.cons_append]
  rw [sectionsWithin_of_settles (Blanks.settles (hkey _)),
    sectionsWithin_pair r.key.isContent_piece r.key.lexeme_ne_leftBracket, bind_eq_ok]
  simp only [Row.pair_eq_ok_iff h, Prod.mk.injEq]
  constructor
  · rintro ⟨_, _, ⟨hfit, rfl, rfl⟩, hok⟩
    exact ⟨hfit, hok⟩
  · rintro ⟨hfit, hok⟩
    exact ⟨_, _, ⟨hfit, rfl, rfl⟩, hok⟩

/-- A title ends the section that was begun, and begins the next one. -/
theorem sectionsWithin_title (bound : Nat) (begun : Section) (t : Title) (o : Nat)
    (h : LineEnds fin ts behind) : ∃ offset,
    sectionsWithin (bound + 1) begun fin (tokensFrom o t.pieces ++ ts) =
      (sectionsWithin bound ⟨offset, [t.key.name], false, []⟩ fin behind).map
        fun r => (begun :: r.1, r.2) := by
  obtain ⟨o₁, o₂, o₃, o₄, o₅, o₆, htokens⟩ := Title.tokensFrom_pieces t o
  have hbracket : ∀ ts, AtContent fin (⟨o₁, .leftBracket⟩ :: ts) := fun _ => .cons rfl
  refine ⟨o₁, ?_⟩
  rw [htokens]
  simp only [List.append_assoc, List.cons_append]
  rw [sectionsWithin_of_settles (Blanks.settles (hbracket _)), sectionsWithin_header,
    bind_of_ok (Title.header_eq h), bind_apply]
  cases sectionsWithin bound ⟨o₁, [t.key.name], false, []⟩ fin behind with
  | error f => rfl
  | ok r => rfl

end Lines

/-! ## 5. Lines in a row -/

/-- Between two places stand lines that say `ds`: they are read exactly if all of this is fit, and
then they add pairs to the section that was begun. -/
structure Adds (fin : Finish) (ds : List (String × Datum)) (ps : Pairs)
    (front behind : List Token) : Prop where
  settles : ∃ after, Settles fin front after
  sectionsWithin_eq_ok_iff : ∀ {bound begun res},
    sectionsWithin (bound + ds.length + 1) begun fin front = .ok res ↔
      (∀ p ∈ ds, p.2.IsFit) ∧ sectionsWithin (bound + 1)
        { begun with pairs := begun.pairs ++ ps } fin behind = .ok res

namespace Adds

theorem nil (h : ∃ after, Settles fin ts after) : Adds fin [] [] ts ts where
  settles := h
  sectionsWithin_eq_ok_iff := by
    intro bound begun res
    rw [List.append_nil]
    exact (and_iff_right fun p hp => nomatch hp).symm

theorem append {ds ds' : List (String × Datum)} {ps ps' : Pairs} {front middle : List Token}
    (h : Adds fin ds ps front middle) (h' : Adds fin ds' ps' middle behind) :
    Adds fin (ds ++ ds') (ps ++ ps') front behind where
  settles := h.settles
  sectionsWithin_eq_ok_iff := by
    intro bound begun res
    have hbound : bound + (ds ++ ds').length = bound + ds'.length + ds.length := by
      rw [List.length_append]
      omega
    rw [hbound, h.sectionsWithin_eq_ok_iff, h'.sectionsWithin_eq_ok_iff, List.forall_mem_append,
      and_assoc, List.append_assoc]

end Adds

theorem Entry.adds (e : Entry) (o : Nat) (h : LineEnds fin ts behind)
    (hbehind : ∃ after, Settles fin behind after) :
    Adds fin e.rows (e.pairs o) (tokensFrom o e.pieces ++ ts) behind := by
  cases e with
  | empty e =>
    obtain ⟨after, hafter⟩ := hbehind
    have hsettles : Settles fin (tokensFrom o e.pieces ++ ts) after := Ending.settles h hafter
    have hnil := Adds.nil ⟨after, hafter⟩
    refine ⟨⟨after, hsettles⟩, fun {bound begun res} => ?_⟩
    have hskipped : sectionsWithin (bound + 1) begun fin (tokensFrom o e.pieces ++ ts) =
        sectionsWithin (bound + 1) begun fin behind :=
      (sectionsWithin_of_settles hsettles).trans (sectionsWithin_of_settles hafter).symm
    exact (iff_of_eq (congrArg (· = _) hskipped)).trans hnil.sectionsWithin_eq_ok_iff
  | row r =>
    have hfit : (∀ p ∈ (row r).rows, p.2.IsFit) ↔ r.item.datum.IsFit := List.forall_mem_singleton
    refine ⟨?_, fun {bound begun res} => ?_⟩
    · obtain ⟨_, _, _, _, _, htokens⟩ := Row.tokensFrom_pieces r o
      rw [pieces, htokens, List.append_assoc]
      exact ⟨_, Blanks.settles (.cons r.key.isContent_piece)⟩
    · rw [hfit]
      exact sectionsWithin_row h

theorem tokensFrom_linesBefore (e : Entry) (es : List Entry) (o : Nat) : ∃ o',
    tokensFrom o (linesBefore (e :: es)) = tokensFrom o e.pieces ++ ⟨o', .newline⟩ ::
      tokensFrom (o + byteLength (textOf e.pieces) + 1) (linesBefore es) := by
  rw [linesBefore, List.flatMap_cons, List.append_assoc, tokensFrom_append]
  exact ⟨_, rfl⟩

theorem tokensFrom_linesBehind (e : Entry) (es : List Entry) (o : Nat) :
    tokensFrom o (linesBehind (e :: es)) = ⟨o, .newline⟩ :: (tokensFrom (o + 1) e.pieces ++
      tokensFrom (o + 1 + byteLength (textOf e.pieces)) (linesBehind es)) := by
  rw [linesBehind, List.flatMap_cons, List.cons_append, tokensFrom, tokensFrom_append]
  rfl

theorem adds_linesBefore (es : List Entry) (o : Nat) (h : ∃ after, Settles fin ts after) :
    Adds fin (rows es) (pairsFrom o es) (tokensFrom o (linesBefore es) ++ ts) ts := by
  induction es generalizing o with
  | nil => exact .nil h
  | cons e es ih =>
    obtain ⟨o', htokens⟩ := tokensFrom_linesBefore e es o
    have hes := ih (o + byteLength (textOf e.pieces) + 1)
    rw [htokens, List.append_assoc, List.cons_append, pairsFrom, rows, List.flatMap_cons]
    exact (e.adds o .feed hes.settles).append hes

/-- Of lines behind a line feed, what is behind the first line feed is read. -/
theorem adds_linesBehind (es : List Entry) (o : Nat) (h : LineEnds fin ts behind)
    (hbehind : ∃ after, Settles fin behind after) : ∃ front,
    LineEnds fin (tokensFrom o (linesBehind es) ++ ts) front ∧
      Adds fin (rows es) (pairsFrom (o + 1) es) front behind := by
  induction es generalizing o with
  | nil => exact ⟨behind, h, .nil hbehind⟩
  | cons e es ih =>
    obtain ⟨front, hfront, hes⟩ := ih (o + 1 + byteLength (textOf e.pieces))
    rw [tokensFrom_linesBehind, List.cons_append, List.append_assoc, pairsFrom, rows,
      List.flatMap_cons]
    exact ⟨_, .feed, (e.adds (o + 1) hfront hes.settles).append hes⟩

/-! ## 6. Documents -/

theorem sections_eq_ok_iff {document : List Char} {fault : Option Fault} {ss : List Section}
    (h : lex (marks document) = ⟨ts, fault⟩) : sections document = .ok ss ↔
      ∃ all rest, sectionsWithin (ts.length + 1) .root
        ⟨fault, (String.ofList document).utf8ByteSize⟩ ts = .ok (all, rest) ∧
          ss = all.filter Section.isPresent := by
  rw [sections, h, bind_eq_ok_iff, Prod.exists]
  refine exists_congr fun all => exists_congr fun rest => and_congr_right fun _ => ?_
  exact ⟨fun h => (Except.ok.inj h).symm, fun h => congrArg _ h.symm⟩

theorem length_tokensFrom (o : Nat) (ps : List Piece) : (tokensFrom o ps).length = ps.length := by
  induction ps generalizing o with
  | nil => rfl
  | cons p ps ih => rw [tokensFrom, List.length_cons, List.length_cons, ih]

theorem Entry.length_rows_le (e : Entry) : e.rows.length ≤ e.pieces.length := by
  cases e with
  | empty e => exact Nat.zero_le _
  | row r =>
    rw [pieces, Row.pieces, List.length_append, List.length_cons]
    exact Nat.le_add_left_of_le (Nat.succ_le_succ (Nat.zero_le _))

-- Each line that says something has a token, so that the bound of the lines is never reached.
theorem length_rows_le {f : Entry → List Piece} (h : ∀ e, e.pieces.length ≤ (f e).length)
    (es : List Entry) : (rows es).length ≤ (es.flatMap f).length := by
  induction es with
  | nil => exact Nat.le_refl 0
  | cons e es ih =>
    rw [rows, List.flatMap_cons, List.flatMap_cons, List.length_append, List.length_append]
    exact Nat.add_le_add (Nat.le_trans e.length_rows_le (h e)) ih

theorem length_rows_le_linesBefore (es : List Entry) : (rows es).length ≤ (linesBefore es).length :=
  length_rows_le (fun e => by rw [List.length_append]; exact Nat.le_add_right _ _) es

theorem Title.exists_settles (t : Title) (o : Nat) (ts : List Token) :
    ∃ after, Settles fin (tokensFrom o t.pieces ++ ts) after := by
  obtain ⟨_, _, _, _, _, _, htokens⟩ := Title.tokensFrom_pieces t o
  rw [htokens, List.append_assoc]
  exact ⟨_, Blanks.settles (.cons rfl)⟩

theorem Title.length_pos (t : Title) : 0 < t.pieces.length := by
  rw [pieces, List.length_append]
  exact Nat.lt_add_left _ (Nat.succ_pos _)

namespace Draft

/-- The lines can give everything that is written in them. -/
def IsFit (d : Draft) : Prop := ∀ p ∈ rows d.root ++ rows d.table, p.2.IsFit

/-- A document is read exactly if it is fit, and its table goes on with what stands behind it. -/
theorem sectionsWithin_eq_ok_iff (d : Draft) (h : LineEnds fin ts behind)
    (hbehind : ∃ after, Settles fin behind after) (hbound : d.pieces.length ≤ bound) :
    ∃ o₁ o₂ left, ∀ res,
      sectionsWithin (bound + 1) .root fin (tokensFrom 0 d.pieces ++ ts) = .ok res ↔
        d.IsFit ∧ ∃ all rest,
          sectionsWithin (left + 1) ⟨o₁, [d.title.key.name], false, pairsFrom o₂ d.table⟩ fin
            behind = .ok (all, rest) ∧
          res = (⟨0, [], false, pairsFrom 0 d.root⟩ :: all, rest) := by
  have hroot := length_rows_le_linesBefore d.root
  have htable : (rows d.table).length ≤ (linesBehind d.table).length :=
    length_rows_le (fun e => Nat.le_succ _) _
  rw [pieces, List.length_append, List.length_append] at hbound
  rw [pieces, tokensFrom_append, tokensFrom_append]
  generalize 0 + byteLength (textOf (linesBefore d.root)) = o
  generalize o + byteLength (textOf d.title.pieces) = o₂
  obtain ⟨left, hleft⟩ :
      ∃ left, bound = left + (rows d.table).length + 1 + (rows d.root).length := by
    have htitle := d.title.length_pos
    exact ⟨bound - (rows d.table).length - 1 - (rows d.root).length, by omega⟩
  obtain ⟨front, hfront, hlines⟩ := adds_linesBehind d.table o₂ h hbehind
  obtain ⟨o₁, htitle⟩ := sectionsWithin_title (left + (rows d.table).length + 1)
    ⟨0, [], false, pairsFrom 0 d.root⟩ d.title o hfront
  have hbegun : (⟨0, [], false, pairsFrom 0 d.root⟩ : Section) =
      { Section.root with pairs := Section.root.pairs ++ pairsFrom 0 d.root } := rfl
  refine ⟨o₁, o₂ + 1, left, fun res => ?_⟩
  rw [hleft, List.append_assoc, List.append_assoc,
    (adds_linesBefore d.root 0 (d.title.exists_settles o _)).sectionsWithin_eq_ok_iff, ← hbegun,
    htitle, map_eq_ok_iff]
  simp only [hlines.sectionsWithin_eq_ok_iff, IsFit, List.forall_mem_append, and_assoc,
    exists_and_left, Prod.exists, List.nil_append]

theorem pieces_ne_nil (d : Draft) : d.pieces ≠ [] := by
  simp [pieces, Title.pieces]

/-- The sections of a document that is fit are its lines before the table and the table. -/
theorem sections_eq_ok_iff (d : Draft) : ∃ o₁ o₂, ∀ ss, sections d.text.toList = .ok ss ↔
    d.IsFit ∧ ss = [⟨0, [], false, pairsFrom 0 d.root⟩,
      ⟨o₁, [d.title.key.name], false, pairsFrom o₂ d.table⟩].filter Section.isPresent := by
  have hlex : lex (marks d.text.toList) = ⟨tokensFrom 0 d.pieces ++ [], none⟩ := by
    have hfront := lex_marks d.pieces_ne_nil (d.areCut atLineEnd_nil)
    rw [List.append_nil, marksFrom, lex] at hfront
    rw [text, String.toList_ofList]
    exact hfront
  have hnil : Settles ⟨none, (String.ofList d.text.toList).utf8ByteSize⟩ [] [] :=
    (AtContent.nil rfl).settles
  obtain ⟨o₁, o₂, left, hsections⟩ :=
    d.sectionsWithin_eq_ok_iff (.nothing rfl) ⟨[], hnil⟩ (Nat.le_refl _)
  refine ⟨o₁, o₂, fun ss => ?_⟩
  rw [Toml.sections_eq_ok_iff hlex, List.length_append, List.length_nil, Nat.add_zero,
    length_tokensFrom]
  simp only [hsections, sectionsWithin_nil]
  constructor
  · rintro ⟨all, rest, ⟨hfit, _, _, hok, hres⟩, rfl⟩
    cases hok
    cases hres
    exact ⟨hfit, rfl⟩
  · rintro ⟨hfit, rfl⟩
    exact ⟨_, _, ⟨hfit, _, _, rfl, rfl⟩, rfl⟩

end Draft

/-! ## 7. Further pieces -/

/-- A text that goes on with a piece behind its front, and then in any way. -/
def furtherText (front : List Piece) (indent : Blanks) (p : Piece) (rest : List Char) : String :=
  String.ofList (textOf (front ++ (indent.pieces ++ [p])) ++ rest)

section Further

variable {indent : Blanks} {p : Piece} {k : Key} {front : List Piece} {rest : List Char}
  {ss : List Section}

theorem lex_furtherText (indent : Blanks) (hp : p.IsCut rest) (hcontent : p.lexeme.isContent = true)
    (hfront : ∀ rest, AreCut front rest) : ∃ o₁ o₂ more fault,
    lex (marks (furtherText front indent p rest).toList) = ⟨tokensFrom 0 front ++
      (tokensFrom o₁ indent.pieces ++ ⟨o₂, p.lexeme⟩ :: more), fault⟩ := by
  have hcut : AreCut (front ++ (indent.pieces ++ [p])) rest := by
    rw [areCut_append]
    exact ⟨hfront _, areCut_indented hp hcontent trivial⟩
  have hnil : front ++ (indent.pieces ++ [p]) ≠ [] := by
    simp
  rw [furtherText, String.toList_ofList, lex_marks hnil hcut]
  simp only [tokensFrom_append, tokensFrom, List.append_assoc, List.cons_append]
  exact ⟨_, _, _, _, rfl⟩

theorem exists_settles_indented {l : Lexeme} (hl : l.isContent = true) {o' : Nat} : ∃ after,
    Settles fin (tokensFrom o indent.pieces ++ ⟨o', l⟩ :: ts) after :=
  ⟨_, Blanks.settles (.cons hl)⟩

-- The indent in front of the key is skipped, and then the key is read.
theorem mem_keys_of_indented {begun : Section} {o' : Nat} {res : List Section × List Token}
    (h : sectionsWithin (bound + 1) begun fin
      (tokensFrom o indent.pieces ++ ⟨o', k.piece.lexeme⟩ :: ts) = .ok res) :
    ∃ s more, res.1 = s :: more ∧ s.header = begun.header ∧ k.name ∈ s.keys := by
  have hkey : AtContent fin (⟨o', k.piece.lexeme⟩ :: ts) := .cons k.isContent_piece
  rw [sectionsWithin_of_settles (Blanks.settles hkey)] at h
  exact mem_keys_of_sectionsWithin k.isContent_piece k.lexeme_ne_leftBracket ⟨ts, k.key_eq⟩ h

theorem isPresent_of_mem_keys {s : Section} {key : String} (h : key ∈ s.keys) :
    s.isPresent = true := by
  have hpairs : s.pairs ≠ [] := by
    intro hnil
    rw [Section.keys, hnil] at h
    exact List.not_mem_nil h
  simp [Section.isPresent, hpairs]

theorem isPresent_of_header_ne {s : Section} (h : s.header ≠ []) : s.isPresent = true := by
  simp [Section.isPresent, h]

/-- A key behind the lines before the first table is a key of the first section, which has no
header. -/
theorem sections_root_key {root : List Entry} (hkey : k.EndsAt rest)
    (h : sections (furtherText (linesBefore root) indent k.piece rest).toList = .ok ss) :
    ∃ s more, ss = s :: more ∧ s.header = [] ∧ k.name ∈ s.keys := by
  obtain ⟨o₁, o₂, ts, fault, hlex⟩ := lex_furtherText indent (Key.isCut hkey) k.isContent_piece
    (areCut_linesBefore root)
  obtain ⟨all, left, hall, rfl⟩ := (sections_eq_ok_iff hlex).mp h
  obtain ⟨bound, hbound⟩ := Nat.exists_eq_add_of_le' (length_rows_le_linesBefore root)
  rw [List.length_append, length_tokensFrom, hbound, Nat.add_right_comm bound,
    (adds_linesBefore root 0 (exists_settles_indented k.isContent_piece)).sectionsWithin_eq_ok_iff]
    at hall
  obtain ⟨-, hall⟩ := hall
  obtain ⟨s, more, rfl, hheader, hkeys⟩ := mem_keys_of_indented hall
  refine ⟨s, more.filter Section.isPresent, ?_, hheader, hkeys⟩
  exact List.filter_cons_of_pos (isPresent_of_mem_keys hkeys)

namespace Draft

variable {d : Draft}

/-- The lines before the table are the first section, and the table goes on with the piece. -/
theorem sections_further (hp : p.IsCut rest) (hcontent : p.lexeme.isContent = true)
    (h : sections (furtherText d.closed indent p rest).toList = .ok ss) :
    ∃ fin o₁ o₂ o₃ o₄ ts bound all left, sectionsWithin (bound + 1)
      ⟨o₁, [d.title.key.name], false, pairsFrom o₂ d.table⟩ fin
        (tokensFrom o₃ indent.pieces ++ ⟨o₄, p.lexeme⟩ :: ts) = .ok (all, left) ∧
      ss = (⟨0, [], false, pairsFrom 0 d.root⟩ :: all).filter Section.isPresent := by
  obtain ⟨o₃, o₄, ts, fault, hlex⟩ := lex_furtherText indent hp hcontent d.areCut_closed
  obtain ⟨all, left, hall, rfl⟩ := (Toml.sections_eq_ok_iff hlex).mp h
  rw [closed, tokensFrom_append, List.append_assoc, List.length_append, length_tokensFrom] at hall
  obtain ⟨o₁, o₂, bound, hsections⟩ := d.sectionsWithin_eq_ok_iff .feed
    (exists_settles_indented hcontent) (Nat.le_add_right _ _)
  obtain ⟨-, all, left, hall, hres⟩ := (hsections _).mp hall
  cases hres
  exact ⟨_, o₁, o₂, o₃, o₄, ts, bound, all, left, hall, rfl⟩

/-- A key behind the lines of the table is a key of the section with its header. -/
theorem sections_key (hkey : k.EndsAt rest)
    (h : sections (furtherText d.closed indent k.piece rest).toList = .ok ss) :
    ∃ s ∈ ss, s.header = [d.title.key.name] ∧ k.name ∈ s.keys := by
  obtain ⟨_, _, _, _, _, _, _, all, left, hall, rfl⟩ :=
    sections_further (Key.isCut hkey) k.isContent_piece h
  obtain ⟨s, more, rfl, hheader, hkeys⟩ := mem_keys_of_indented hall
  refine ⟨s, List.mem_filter.mpr ⟨?_, isPresent_of_mem_keys hkeys⟩, hheader, hkeys⟩
  exact List.mem_cons_of_mem _ List.mem_cons_self

/-- A bracket behind the lines of the table begins another section. -/
theorem sections_leftBracket
    (h : sections (furtherText d.closed indent leftBracket rest).toList = .ok ss) :
    ∃ (root : Option Section) (table s : Section) (more : List Section),
      ss = root.toList ++ table :: s :: more ∧ (∀ r ∈ root, r.header = []) ∧
        table.header = [d.title.key.name] := by
  obtain ⟨_, o₁, o₂, _, _, _, _, all, left, hall, rfl⟩ :=
    sections_further (isCut_single rfl _) rfl h
  rw [sectionsWithin_of_settles (Blanks.settles (.cons rfl))] at hall
  obtain ⟨s, more, rfl, hs⟩ := sectionsWithin_leftBracket hall
  let root : Section := ⟨0, [], false, pairsFrom 0 d.root⟩
  let table : Section := ⟨o₁, [d.title.key.name], false, pairsFrom o₂ d.table⟩
  have htable : table.isPresent = true := isPresent_of_header_ne (List.cons_ne_nil _ _)
  refine ⟨if root.isPresent then some root else none, table, s, more.filter Section.isPresent, ?_,
    fun r hr => ?_, rfl⟩
  · rw [List.filter_cons, List.filter_cons_of_pos htable,
      List.filter_cons_of_pos (isPresent_of_header_ne hs)]
    split
    · rfl
    · rfl
  · split at hr
    · cases hr
      rfl
    · exact nomatch hr

end Draft

end Further

end Preflight.Toml
