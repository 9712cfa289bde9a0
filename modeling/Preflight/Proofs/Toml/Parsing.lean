import Preflight.Proofs.Steps
import Preflight.Toml.Section

/-!
The reader of tokens, step by step: what each step takes off the front of the tokens that are left.
Of lines that are read it is enough to know that the pairs of a section only grow, so that a key
that was read stays in its section whatever follows.
-/

namespace Preflight.Toml

/-- Whether a token is part of what a line says, rather than of how it is laid out. -/
def Lexeme.isContent : Lexeme → Bool
  | .blank _ => false
  | .newline => false
  | .comment => false
  | _ => true

namespace Parse

variable {α β : Type} {fin : Finish} {t : Token} {ts rest : List Token} {o : Nat} {l : Lexeme}

/-! ## 1. Steps in a row -/

theorem bind_apply {p : Parse α} {f : α → Parse β} :
    (p >>= f) fin ts = (p fin ts >>= fun r => f r.1 fin r.2) := rfl

theorem bind_of_ok {p : Parse α} {f : α → Parse β} {a : α} (h : p fin ts = .ok (a, rest)) :
    (p >>= f) fin ts = f a fin rest := by
  rw [bind_apply, h]
  rfl

theorem bind_eq_ok {p : Parse α} {f : α → Parse β} {r : β × List Token} :
    (p >>= f) fin ts = .ok r ↔ ∃ a rest, p fin ts = .ok (a, rest) ∧ f a fin rest = .ok r := by
  rw [bind_apply, bind_eq_ok_iff]
  exact Prod.exists

theorem lift_eq_ok {e : Except Fault α} {a : α} :
    (liftM e : Parse α) fin ts = .ok (a, rest) ↔ e = .ok a ∧ rest = ts := by
  cases e with
  | error f => exact ⟨fun h => (nomatch h), fun h => nomatch h.1⟩
  | ok b =>
    constructor
    · intro h
      cases h
      exact ⟨rfl, rfl⟩
    · rintro ⟨h, rfl⟩
      cases h
      rfl

/-! ## 2. Single tokens -/

theorem peek_cons : peek fin (t :: ts) = .ok (some t, t :: ts) := rfl

theorem next_cons : next fin (t :: ts) = .ok (some t, ts) := rfl

theorem peek_nil (h : fin.fault = none) : peek fin [] = .ok (none, []) := by
  obtain ⟨fault, length⟩ := fin
  cases h
  rfl

theorem eat_eq : eat l fin (⟨o, l⟩ :: ts) = .ok (true, ts) := by
  rw [eat, bind_of_ok peek_cons]
  dsimp only
  rw [if_pos rfl]
  rfl

theorem eat_ne (h : t.lexeme ≠ l) : eat l fin (t :: ts) = .ok (false, t :: ts) := by
  rw [eat, bind_of_ok peek_cons]
  dsimp only
  rw [if_neg h]
  rfl

theorem eat_nil (h : fin.fault = none) : eat l fin [] = .ok (false, []) := by
  rw [eat, bind_of_ok (peek_nil h)]
  rfl

theorem next_nil (h : fin.fault = none) : next fin [] = .ok (none, []) := by
  rw [next, bind_of_ok (peek_nil h)]
  rfl

theorem expect_eq : expect l fin (⟨o, l⟩ :: ts) = .ok ((), ts) := by
  rw [expect, bind_of_ok next_cons]
  dsimp only
  rw [if_pos rfl]
  rfl

/-! ## 3. Layout -/

/-- What is left begins with content, or there is nothing left and no fault behind it. -/
inductive AtContent (fin : Finish) : List Token → Prop
  | nil (h : fin.fault = none) : AtContent fin []
  | cons {t : Token} {ts : List Token} (h : t.lexeme.isContent = true) : AtContent fin (t :: ts)

theorem skipBlank_blank {b : List Char} : skipBlank fin (⟨o, .blank b⟩ :: ts) = .ok ((), ts) := rfl

theorem skipBlank_of_ne (h : ∀ b, t.lexeme ≠ .blank b) :
    skipBlank fin (t :: ts) = .ok ((), t :: ts) := by
  obtain ⟨o, l⟩ := t
  rw [skipBlank, bind_of_ok peek_cons]
  cases l with
  | blank b => exact absurd rfl (h b)
  | _ => rfl

namespace AtContent

theorem skipBlank (h : AtContent fin ts) : skipBlank fin ts = .ok ((), ts) := by
  cases h with
  | nil h =>
    rw [Parse.skipBlank, bind_of_ok (peek_nil h)]
    rfl
  | cons h =>
    refine skipBlank_of_ne fun b hb => ?_
    rw [hb] at h
    exact nomatch h

theorem eat_layout (h : AtContent fin ts) (hl : l.isContent = false) :
    eat l fin ts = .ok (false, ts) := by
  cases h with
  | nil h => exact eat_nil h
  | cons h =>
    refine eat_ne fun heq => ?_
    rw [heq, hl] at h
    exact nomatch h

theorem comment (h : AtContent fin ts) : comment fin ts = .ok (false, ts) := by
  rw [Parse.comment, bind_of_ok (h.eat_layout rfl)]
  rfl

theorem skipLines (h : AtContent fin ts) (bound : Nat) : skipLines bound fin ts = .ok ((), ts) := by
  cases bound with
  | zero => rfl
  | succ bound =>
    rw [Parse.skipLines, bind_of_ok h.skipBlank, bind_of_ok (h.eat_layout rfl), if_neg (by decide),
      bind_of_ok h.comment]
    rfl

end AtContent

/-- A line is over in front of these tokens: a line feed stands between them and what is left, or
there is nothing left and no fault behind it. -/
inductive LineEnds (fin : Finish) : List Token → List Token → Prop
  | feed {o : Nat} {ts : List Token} : LineEnds fin (⟨o, .newline⟩ :: ts) ts
  | nothing (h : fin.fault = none) : LineEnds fin [] []

namespace LineEnds

theorem eat_ne (h : LineEnds fin ts rest) (hl : l ≠ .newline) : eat l fin ts = .ok (false, ts) := by
  cases h with
  | feed => exact Parse.eat_ne (Ne.symm hl)
  | nothing h => exact eat_nil h

theorem skipBlank (h : LineEnds fin ts rest) : skipBlank fin ts = .ok ((), ts) := by
  cases h with
  | feed => exact skipBlank_of_ne fun _ h => nomatch h
  | nothing h => exact (AtContent.nil h).skipBlank

theorem endOfLine (h : LineEnds fin ts rest) : endOfLine fin ts = .ok ((), rest) := by
  cases h with
  | feed => rfl
  | nothing h =>
    rw [Parse.endOfLine, bind_of_ok (next_nil h)]
    rfl

theorem comment_eq_false (h : LineEnds fin ts rest) : comment fin ts = .ok (false, ts) := by
  rw [comment, bind_of_ok (h.eat_ne (by decide))]
  rfl

theorem comment_eq_true (h : LineEnds fin ts rest) :
    comment fin (⟨o, .comment⟩ :: ts) = .ok (true, rest) := by
  rw [comment, bind_of_ok eat_eq, if_pos rfl, bind_of_ok h.endOfLine]
  rfl

theorem skipLines (h : LineEnds fin ts rest) (bound : Nat) :
    skipLines (bound + 1) fin ts = skipLines bound fin rest := by
  have hblank := h.skipBlank
  cases h with
  | feed => rw [Parse.skipLines, bind_of_ok hblank, bind_of_ok eat_eq, if_pos rfl]
  | nothing h => rw [(AtContent.nil h).skipLines, (AtContent.nil h).skipLines]

theorem length_le (h : LineEnds fin ts rest) : rest.length ≤ ts.length - 1 := by
  cases h with
  | feed => exact Nat.le_refl _
  | nothing => exact Nat.le_refl _

end LineEnds

/-! ## 4. Keys -/

theorem key_word {text : List Char} :
    key fin (⟨o, .word text⟩ :: ts) = .ok (String.ofList text, ts) := rfl

theorem key_quoted {text : List Char} :
    key fin (⟨o, .quoted text false⟩ :: ts) = .ok (String.ofList text, ts) := rfl

theorem dottedKey_eq_ok {keys : List String} (h : dottedKey fin ts = .ok (keys, rest)) :
    ∃ k more behind, key fin ts = .ok (k, behind) ∧ keys = k :: more := by
  rw [dottedKey] at h
  obtain ⟨k, behind, hkey, h⟩ := bind_eq_ok.mp h
  obtain ⟨_, _, -, h⟩ := bind_eq_ok.mp h
  obtain ⟨more, _, -, h⟩ := bind_eq_ok.mp h
  cases h
  exact ⟨k, more, behind, hkey, rfl⟩

end Parse

/-! ## 5. Pairs -/

def Section.keys (s : Section) : List String := s.pairs.map Prod.fst

-- A dotted key that goes on with a table puts the table back in its place, under the same key.
theorem mem_keys_of_insertAt {v : Value} {k key : String} {more : List String}
    {pairs pairs' : Pairs} (h : insertAt v (k :: more) pairs = .ok pairs')
    (hkey : key = k ∨ key ∈ pairs.map Prod.fst) : key ∈ pairs'.map Prod.fst := by
  have happend : ∀ v, key ∈ (pairs ++ [(k, v)]).map Prod.fst := by
    intro v
    rw [List.map_append, List.mem_append]
    exact hkey.elim (fun he => .inr (by simp [he])) .inl
  cases more with
  | nil =>
    cases h
    exact happend v
  | cons k' more =>
    rw [insertAt] at h
    · cases hfind : pairs.findIdx? (·.1 == k) with
      | none =>
        rw [hfind] at h
        obtain ⟨inner, -, h⟩ := bind_eq_ok_iff.mp h
        cases h
        exact happend _
      | some i =>
        rw [hfind] at h
        obtain ⟨hi, hk, -⟩ := List.findIdx?_eq_some_iff_getElem.mp hfind
        have hkeys : k ∈ pairs.map Prod.fst :=
          List.mem_map.mpr ⟨pairs[i], List.getElem_mem hi, beq_iff_eq.mp hk⟩
        have hold : key ∈ pairs.map Prod.fst := hkey.elim (fun he => he ▸ hkeys) id
        dsimp only at h
        split at h
        case h_1 k'' offset inner hat =>
          obtain ⟨inner', -, h⟩ := bind_eq_ok_iff.mp h
          cases h
          rw [List.map_set]
          have hsame : (pairs.map Prod.fst).set i k = pairs.map Prod.fst := by
            rw [← beq_iff_eq.mp hk, ← List.getElem_map (h := by simpa using hi) Prod.fst]
            exact List.set_getElem_self _
          rwa [hsame]
        case h_2 => exact nomatch h
        case h_3 =>
          cases h
          exact hold
    · simp

/-! ## 6. Lines -/

namespace Parse

variable {begun : Section} {pairs pairs' : Pairs} {bound : Nat}

/-- Whatever is skipped at the front of the tokens that are left, it ends at `after`. -/
def Settles (fin : Finish) (ts after : List Token) : Prop :=
  AtContent fin after ∧ ∀ bound, ts.length ≤ bound → skipLines bound fin ts = .ok ((), after)

theorem AtContent.settles (h : AtContent fin ts) : Settles fin ts ts :=
  ⟨h, fun bound _ => h.skipLines bound⟩

theorem sectionsWithin_of_settles {after : List Token} (h : Settles fin ts after) :
    sectionsWithin (bound + 1) begun fin ts = sectionsWithin (bound + 1) begun fin after := by
  have hleft : ∀ ts, left fin ts = .ok (ts.length, ts) := fun _ => rfl
  rw [sectionsWithin, bind_of_ok (hleft ts), bind_of_ok (hleft after),
    bind_of_ok (h.2 _ (Nat.le_refl _)), bind_of_ok (h.1.skipLines _)]

theorem sectionsWithin_nil (h : fin.fault = none) :
    sectionsWithin (bound + 1) begun fin [] = .ok ([begun], []) := by
  rw [sectionsWithin, bind_of_ok (show left fin [] = .ok (0, []) from rfl),
    bind_of_ok ((AtContent.nil h).skipLines _), bind_of_ok (peek_nil h)]
  rfl

theorem sectionsWithin_header :
    sectionsWithin (bound + 1) begun fin (⟨o, .leftBracket⟩ :: ts) =
      (header >>= fun s => return begun :: (← sectionsWithin bound s)) fin
        (⟨o, .leftBracket⟩ :: ts) := by
  have hleft : left fin (⟨o, .leftBracket⟩ :: ts) = .ok (ts.length + 1, _) := rfl
  rw [sectionsWithin, bind_of_ok hleft, bind_of_ok ((AtContent.cons rfl).skipLines _),
    bind_of_ok peek_cons]
  rfl

theorem sectionsWithin_pair (h : t.lexeme.isContent = true) (hne : t.lexeme ≠ .leftBracket) :
    sectionsWithin (bound + 1) begun fin (t :: ts) =
      (pair begun.pairs >>= fun pairs => sectionsWithin bound { begun with pairs }) fin
        (t :: ts) := by
  have hleft : left fin (t :: ts) = .ok (ts.length + 1, _) := rfl
  rw [sectionsWithin, bind_of_ok hleft, bind_of_ok ((AtContent.cons h).skipLines _),
    bind_of_ok peek_cons]
  dsimp only
  rw [if_neg hne]

/-! ## 7. Keys that stay -/

/-- A pair that is read keeps the keys that are there, and adds the key at its front. -/
theorem mem_keys_of_pair (h : pair pairs fin ts = .ok (pairs', rest)) :
    ∃ k behind, key fin ts = .ok (k, behind) ∧
      ∀ key, key = k ∨ key ∈ pairs.map Prod.fst → key ∈ pairs'.map Prod.fst := by
  rw [pair] at h
  obtain ⟨keys, _, hkeys, h⟩ := bind_eq_ok.mp h
  obtain ⟨_, _, -, h⟩ := bind_eq_ok.mp h
  obtain ⟨_, _, -, h⟩ := bind_eq_ok.mp h
  obtain ⟨_, _, -, h⟩ := bind_eq_ok.mp h
  obtain ⟨v, _, -, h⟩ := bind_eq_ok.mp h
  obtain ⟨_, _, -, h⟩ := bind_eq_ok.mp h
  obtain ⟨k, more, behind, hkey, rfl⟩ := dottedKey_eq_ok hkeys
  exact ⟨k, behind, hkey, fun key hor => mem_keys_of_insertAt (lift_eq_ok.mp h).1 hor⟩

/-- The section that was begun is the first of those that are read, and keeps its keys. -/
theorem sectionsWithin_eq_ok {ss : List Section}
    (h : sectionsWithin bound begun fin ts = .ok (ss, rest)) :
    ∃ s more, ss = s :: more ∧ s.header = begun.header ∧ ∀ key ∈ begun.keys, key ∈ s.keys := by
  induction bound generalizing begun ts with
  | zero =>
    cases h
    exact ⟨begun, [], rfl, rfl, fun _ hkey => hkey⟩
  | succ bound ih =>
    rw [sectionsWithin] at h
    obtain ⟨_, _, -, h⟩ := bind_eq_ok.mp h
    obtain ⟨_, _, -, h⟩ := bind_eq_ok.mp h
    obtain ⟨t?, _, -, h⟩ := bind_eq_ok.mp h
    cases t? with
    | none =>
      cases h
      exact ⟨begun, [], rfl, rfl, fun _ hkey => hkey⟩
    | some t =>
      dsimp only at h
      split at h
      case isTrue =>
        obtain ⟨_, _, -, h⟩ := bind_eq_ok.mp h
        obtain ⟨more, _, -, h⟩ := bind_eq_ok.mp h
        cases h
        exact ⟨begun, more, rfl, rfl, fun _ hkey => hkey⟩
      case isFalse =>
        obtain ⟨pairs, _, hpair, h⟩ := bind_eq_ok.mp h
        obtain ⟨s, more, rfl, hheader, hkeys⟩ := ih h
        obtain ⟨_, _, -, hpairs⟩ := mem_keys_of_pair hpair
        exact ⟨s, more, rfl, hheader, fun key hkey => hkeys key (hpairs key (.inr hkey))⟩

/-- A key at the front of what is left is a key of the section that was begun, whatever follows. -/
theorem mem_keys_of_sectionsWithin {ss : List Section} {k : String}
    (h : t.lexeme.isContent = true) (hne : t.lexeme ≠ .leftBracket)
    (hkey : ∃ behind, key fin (t :: ts) = .ok (k, behind))
    (hss : sectionsWithin (bound + 1) begun fin (t :: ts) = .ok (ss, rest)) :
    ∃ s more, ss = s :: more ∧ s.header = begun.header ∧ k ∈ s.keys := by
  rw [sectionsWithin_pair h hne] at hss
  obtain ⟨pairs, _, hpair, hss⟩ := bind_eq_ok.mp hss
  obtain ⟨s, more, rfl, hheader, hkeys⟩ := sectionsWithin_eq_ok hss
  obtain ⟨k', behind', hkey', hpairs⟩ := mem_keys_of_pair hpair
  obtain ⟨behind, hkey⟩ := hkey
  cases hkey.symm.trans hkey'
  exact ⟨s, more, rfl, hheader, hkeys k (hpairs k (.inl rfl))⟩

theorem header_ne_nil {s : Section} (h : header fin ts = .ok (s, rest)) : s.header ≠ [] := by
  rw [header] at h
  obtain ⟨_, _, -, h⟩ := bind_eq_ok.mp h
  obtain ⟨_, _, -, h⟩ := bind_eq_ok.mp h
  obtain ⟨_, _, -, h⟩ := bind_eq_ok.mp h
  obtain ⟨_, _, -, h⟩ := bind_eq_ok.mp h
  obtain ⟨parts, _, hparts, h⟩ := bind_eq_ok.mp h
  obtain ⟨k, more, -, -, rfl⟩ := dottedKey_eq_ok hparts
  obtain ⟨_, _, -, h⟩ := bind_eq_ok.mp h
  split at h
  case isTrue =>
    obtain ⟨_, _, -, h⟩ := bind_eq_ok.mp h
    obtain ⟨_, _, -, h⟩ := bind_eq_ok.mp h
    cases h
    exact List.cons_ne_nil k more
  case isFalse =>
    obtain ⟨_, _, -, h⟩ := bind_eq_ok.mp h
    cases h
    exact List.cons_ne_nil k more

/-- A bracket at the front of what is left ends the section that was begun, and the next one has a
header. -/
theorem sectionsWithin_leftBracket {ss : List Section}
    (h : sectionsWithin (bound + 1) begun fin (⟨o, .leftBracket⟩ :: ts) = .ok (ss, rest)) :
    ∃ s more, ss = begun :: s :: more ∧ s.header ≠ [] := by
  rw [sectionsWithin_header] at h
  obtain ⟨next, _, hnext, h⟩ := bind_eq_ok.mp h
  obtain ⟨_, _, hmore, h⟩ := bind_eq_ok.mp h
  cases h
  obtain ⟨s, more, rfl, hheader, -⟩ := sectionsWithin_eq_ok hmore
  exact ⟨s, more, rfl, hheader ▸ header_ne_nil hnext⟩

end Parse

end Preflight.Toml
