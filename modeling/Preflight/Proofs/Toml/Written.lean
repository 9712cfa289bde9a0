import Preflight.Proofs.Toml.Integer
import Preflight.Proofs.Toml.Lexing
import Preflight.Proofs.Toml.Parsing

/-!
Documents as they are written: lines with a key and an integer or a string, and the title of a table
between them. Blanks may stand where the grammar has them, and so may comments and lines that hold
nothing. Line feeds stand between the lines, so that the last line is the end of the document. Each
such text is cut into the tokens that it was written from.
-/

namespace Preflight.Toml

/-! ## 1. Layout -/

/-- Spaces and tabs, perhaps none. -/
structure Blanks where
  text : List Char
  isLineBlank : ∀ c ∈ text, isLineBlank c = true

/-- What stands behind the content of a line, as far as the line goes. -/
structure Ending where
  blanks : Blanks
  comment : Option (List Char)
  isCommentChar : ∀ cs ∈ comment, ∀ c ∈ cs, isCommentChar c = true

def Blanks.pieces (b : Blanks) : List Piece :=
  if b.text = [] then [] else [⟨b.text, .blank b.text⟩]

def Ending.pieces (e : Ending) : List Piece :=
  e.blanks.pieces ++ match e.comment with
    | none => []
    | some cs => [⟨'#' :: cs, .comment⟩]

def newline : Piece := ⟨['\n'], .newline⟩

/-- A line is over where a text goes on with `rest`: a line feed stands there, or nothing. -/
def AtLineEnd (rest : List Char) : Prop := ∀ c ∈ rest.head?, c = '\n'

theorem atLineEnd_nil : AtLineEnd [] := by
  intro c hc
  cases hc

theorem atLineEnd_newline {ps : List Piece} {rest : List Char} :
    AtLineEnd (textOf (newline :: ps) ++ rest) := by
  intro c hc
  cases hc
  rfl

namespace Blanks

def none : Blanks := ⟨[], fun _ h => nomatch h⟩

def space : Blanks := ⟨[' '], List.all_eq_true.mp rfl⟩

variable {b : Blanks} {rest : List Char}

theorem textOf_pieces : textOf b.pieces = b.text := by
  rw [pieces]
  split
  case isTrue h => exact h.symm
  case isFalse => exact List.append_nil _

theorem areCut (hrest : ∀ c ∈ rest.head?, Toml.isLineBlank c = false) : AreCut b.pieces rest := by
  rw [pieces]
  split
  case isTrue => trivial
  case isFalse h => exact ⟨isCut_blank h b.isLineBlank hrest, trivial⟩

/-- What holds of a blank, and of what stands behind the blanks, holds of what comes first. -/
theorem head_append {p : Char → Prop} (hblank : ∀ c, Toml.isLineBlank c = true → p c)
    (hrest : ∀ c ∈ rest.head?, p c) : ∀ c ∈ (b.text ++ rest).head?, p c := by
  have hb := b.isLineBlank
  cases htext : b.text with
  | nil => exact hrest
  | cons d ds =>
    intro c hc
    cases hc
    exact hblank d (hb d (by rw [htext]; exact List.mem_cons_self))

end Blanks

namespace Ending

def plain : Ending := ⟨.none, none, fun _ h => nomatch h⟩

variable {e : Ending} {rest : List Char}

theorem areCut (hrest : AtLineEnd rest) : AreCut e.pieces rest := by
  have hcomment := e.isCommentChar
  rw [pieces, areCut_append]
  split
  case h_1 => exact ⟨Blanks.areCut fun c hc => by rw [hrest c hc]; rfl, trivial⟩
  case h_2 cs hcs =>
    exact ⟨Blanks.areCut fun c hc => by cases hc; rfl,
      isCut_comment (hcomment cs hcs) fun c hc => by rw [hrest c hc]; rfl, trivial⟩

theorem head_append {p : Char → Prop} (hblank : ∀ c, Toml.isLineBlank c = true → p c)
    (hhash : p '#') (hline : p '\n') (hrest : AtLineEnd rest) :
    ∀ c ∈ (textOf e.pieces ++ rest).head?, p c := by
  rw [pieces, textOf_append, Blanks.textOf_pieces, List.append_assoc]
  refine Blanks.head_append hblank ?_
  split
  case h_1 => exact fun c hc => hrest c hc ▸ hline
  case h_2 =>
    intro c hc
    cases hc
    exact hhash

end Ending

/-- No piece but blanks begins with a blank. -/
theorem Piece.IsCut.head_append {p : Piece} {rest behind : List Char} (h : p.IsCut rest)
    (hcontent : p.lexeme.isContent = true) :
    ∀ c ∈ (p.text ++ behind).head?, isLineBlank c = false := by
  obtain ⟨c, cs, htext, -, hlexeme⟩ := h
  rw [htext]
  intro d hd
  cases hd
  rw [← Bool.not_eq_true]
  intro hblank
  have hsingle : single? c = none := by
    have hc : c = ' ' ∨ c = '\t' := by
      simpa [isLineBlank] using hblank
    rcases hc with rfl | rfl
    · rfl
    · rfl
  have hlex := hlexeme 0
  rw [Toml.lexeme, hsingle] at hlex
  dsimp only at hlex
  rw [if_pos hblank] at hlex
  rw [← (Prod.mk.inj (Except.ok.inj hlex)).1] at hcontent
  exact Bool.false_ne_true hcontent

/-! ## 2. Keys and items -/

/-- Neither a word nor a string goes on with the character. -/
structure IsOutside (c : Char) : Prop where
  isWordChar : isWordChar c = false
  ne_delimiter : ∀ literal, c ≠ delimiter literal

theorem isOutside_of_isLineBlank {c : Char} (h : isLineBlank c = true) : IsOutside c := by
  have hc : c = ' ' ∨ c = '\t' := by
    simpa [isLineBlank] using h
  rcases hc with rfl | rfl
  · exact ⟨by decide, by decide⟩
  · exact ⟨by decide, by decide⟩

/-- A key of one part, as it stands or in quotes. -/
inductive Key where
  | bare (w : List Char) (hnil : w ≠ []) (hw : ∀ c ∈ w, isWordChar c = true)
  | quoted (literal : Bool) (s : List Char) (hs : ∀ c ∈ s, IsPlain literal c)

namespace Key

def name : Key → String
  | bare w _ _ => String.ofList w
  | quoted _ s _ => String.ofList s

def piece : Key → Piece
  | bare w _ _ => ⟨w, .word w⟩
  | quoted literal s _ => ⟨delimiter literal :: (s ++ [delimiter literal]), .quoted s false⟩

/-- The key does not go on where a text goes on with `rest`. -/
def EndsAt (rest : List Char) : Key → Prop
  | bare _ _ _ => ∀ c ∈ rest.head?, isWordChar c = false
  | quoted literal _ _ => ∀ c ∈ rest.head?, c ≠ delimiter literal

variable {k : Key} {rest : List Char}

theorem endsAt (h : ∀ c ∈ rest.head?, IsOutside c) : k.EndsAt rest := by
  cases k with
  | bare => exact fun c hc => (h c hc).isWordChar
  | quoted literal => exact fun c hc => (h c hc).ne_delimiter literal

theorem isCut (h : k.EndsAt rest) : k.piece.IsCut rest := by
  cases k with
  | bare w hnil hw => exact isCut_word hnil hw h
  | quoted literal s hs => exact isCut_quoted hs h

theorem isContent_piece (k : Key) : k.piece.lexeme.isContent = true := by
  cases k <;> rfl

end Key

/-- What a line says of its key. -/
inductive Datum where
  | integer (n : Int)
  | text (s : String)
  deriving DecidableEq, Repr

/-- An integer in decimal digits, or a string of one line without escapes. -/
inductive Item where
  | integer (n : Int)
  | text (literal : Bool) (s : List Char) (hs : ∀ c ∈ s, IsPlain literal c)

namespace Item

def datum : Item → Datum
  | integer n => .integer n
  | text _ s _ => .text (String.ofList s)

def piece : Item → Piece
  | integer n => ⟨(toString n).toList, .word (toString n).toList⟩
  | text literal s _ => ⟨delimiter literal :: (s ++ [delimiter literal]), .quoted s false⟩

theorem isContent_piece (i : Item) : i.piece.lexeme.isContent = true := by
  cases i <;> rfl

variable {i : Item} {rest : List Char}

theorem isCut (h : ∀ c ∈ rest.head?, IsOutside c) : i.piece.IsCut rest := by
  cases i with
  | integer n =>
    have hdigit : ∀ c : Char, c.isDigit = true → isWordChar c = true := by
      intro c hc
      simp [isWordChar, Char.isAlphanum, hc]
    obtain ⟨d, ds, htext, hd, hds⟩ := toList_toString_int n
    rw [piece, htext]
    refine isCut_word (List.cons_ne_nil _ _) ?_ fun c hc => (h c hc).isWordChar
    refine List.forall_mem_cons.mpr ⟨?_, fun c hc => hdigit c (hds c hc)⟩
    rcases hd with rfl | hd
    · decide
    · exact hdigit d hd
  | text literal s hs => exact isCut_quoted hs fun c hc => (h c hc).ne_delimiter literal

end Item

/-! ## 3. Lines -/

/-- A line with a key and what it says of the key. -/
structure Row where
  indent : Blanks
  key : Key
  left : Blanks
  right : Blanks
  item : Item
  ending : Ending

/-- A line that says something of a key, or one that holds nothing. -/
inductive Entry where
  | empty (ending : Ending)
  | row (r : Row)

/-- The line above a table, with its name in brackets. -/
structure Title where
  indent : Blanks
  before : Blanks
  key : Key
  behind : Blanks
  ending : Ending

def equals : Piece := ⟨['='], .equals⟩

def leftBracket : Piece := ⟨['['], .leftBracket⟩

def rightBracket : Piece := ⟨[']'], .rightBracket⟩

/-- The pieces of a row in front of its item. -/
def Row.front (r : Row) : List Piece :=
  r.indent.pieces ++ r.key.piece :: (r.left.pieces ++ equals :: r.right.pieces)

def Row.pieces (r : Row) : List Piece := r.front ++ r.item.piece :: r.ending.pieces

def Entry.pieces : Entry → List Piece
  | empty e => e.pieces
  | row r => r.pieces

def Title.pieces (t : Title) : List Piece :=
  t.indent.pieces ++ leftBracket :: (t.before.pieces ++ t.key.piece :: (t.behind.pieces ++
    rightBracket :: t.ending.pieces))

section

variable {rest : List Char}

/-- Blanks and a piece behind them that is no blank. -/
theorem areCut_indented {b : Blanks} {p : Piece} {ps : List Piece}
    (hp : p.IsCut (textOf ps ++ rest)) (hcontent : p.lexeme.isContent = true)
    (hps : AreCut ps rest) : AreCut (b.pieces ++ p :: ps) rest := by
  rw [areCut_append, textOf, List.append_assoc]
  exact ⟨Blanks.areCut (hp.head_append hcontent), hp, hps⟩

/-- Where blanks and a single character stand behind a key, the key ends. -/
theorem Key.isCut_before {k : Key} {b : Blanks} {c : Char} {l : Lexeme} {ps : List Piece}
    (hc : IsOutside c) : k.piece.IsCut (textOf (b.pieces ++ ⟨[c], l⟩ :: ps) ++ rest) := by
  rw [textOf_append, Blanks.textOf_pieces, List.append_assoc]
  refine Key.isCut (Key.endsAt (Blanks.head_append (fun _ => isOutside_of_isLineBlank) ?_))
  intro d hd
  cases hd
  exact hc

theorem Row.areCut {r : Row} (hrest : AtLineEnd rest) : AreCut r.pieces rest := by
  have hitem : r.item.piece.IsCut (textOf r.ending.pieces ++ rest) :=
    Item.isCut (Ending.head_append (fun _ => isOutside_of_isLineBlank) ⟨by decide, by decide⟩
      ⟨by decide, by decide⟩ hrest)
  rw [pieces, front]
  simp only [List.append_assoc, List.cons_append]
  refine areCut_indented (Key.isCut_before ⟨by decide, by decide⟩) r.key.isContent_piece ?_
  refine areCut_indented (isCut_single rfl _) rfl ?_
  exact areCut_indented hitem r.item.isContent_piece (Ending.areCut hrest)

theorem Entry.areCut {e : Entry} (hrest : AtLineEnd rest) : AreCut e.pieces rest := by
  cases e with
  | empty e => exact Ending.areCut hrest
  | row r => exact Row.areCut hrest

theorem Title.areCut {t : Title} (hrest : AtLineEnd rest) : AreCut t.pieces rest := by
  refine areCut_indented (isCut_single rfl _) rfl ?_
  refine areCut_indented (Key.isCut_before ⟨by decide, by decide⟩) t.key.isContent_piece ?_
  exact areCut_indented (isCut_single rfl _) rfl (Ending.areCut hrest)

end

/-! ## 4. Lines in a row -/

/-- Lines with a line feed behind each of them. -/
def linesBefore (es : List Entry) : List Piece := es.flatMap fun e => e.pieces ++ [newline]

/-- Lines with a line feed in front of each of them. -/
def linesBehind (es : List Entry) : List Piece := es.flatMap fun e => newline :: e.pieces

section

variable {rest : List Char}

theorem areCut_linesBefore (es : List Entry) (rest : List Char) : AreCut (linesBefore es) rest := by
  induction es with
  | nil => trivial
  | cons e es ih =>
    rw [linesBefore, List.flatMap_cons, areCut_append, areCut_append]
    exact ⟨⟨Entry.areCut atLineEnd_newline, isCut_single rfl _, trivial⟩, ih⟩

theorem atLineEnd_linesBehind (es : List Entry) (hrest : AtLineEnd rest) :
    AtLineEnd (textOf (linesBehind es) ++ rest) := by
  cases es with
  | nil => exact hrest
  | cons e es => exact atLineEnd_newline

theorem areCut_linesBehind (es : List Entry) (hrest : AtLineEnd rest) :
    AreCut (linesBehind es) rest := by
  induction es with
  | nil => trivial
  | cons e es ih =>
    rw [linesBehind, List.flatMap_cons, areCut_append]
    exact ⟨⟨isCut_single rfl _, Entry.areCut (atLineEnd_linesBehind es hrest)⟩, ih⟩

end

/-! ## 5. Documents -/

/-- Lines before a table, the title of the table, and its lines. -/
structure Draft where
  root : List Entry
  title : Title
  table : List Entry

namespace Draft

def pieces (d : Draft) : List Piece :=
  linesBefore d.root ++ (d.title.pieces ++ linesBehind d.table)

def text (d : Draft) : String := String.ofList (textOf d.pieces)

/-- The document and a line feed behind its last line. -/
def closed (d : Draft) : List Piece := d.pieces ++ [newline]

theorem areCut (d : Draft) {rest : List Char} (hrest : AtLineEnd rest) : AreCut d.pieces rest := by
  rw [pieces, areCut_append, areCut_append]
  exact ⟨areCut_linesBefore _ _, Title.areCut (atLineEnd_linesBehind _ hrest),
    areCut_linesBehind _ hrest⟩

theorem areCut_closed (d : Draft) (rest : List Char) : AreCut d.closed rest := by
  rw [closed, areCut_append]
  exact ⟨d.areCut atLineEnd_newline, isCut_single rfl _, trivial⟩

end Draft

end Preflight.Toml
