import Preflight.CommandLine.Reading
import Preflight.Proofs.Text.Utf8

/-!
Command lines as they are written. An option is named in full or by one letter. It stands before its
value, which is a word of its own or is joined to it, or before a list of values; positional values
stand where their turn comes, and options anywhere. Reading such a command line gives every parameter
the values that were written for it, in the order of the words.
-/

namespace Preflight.CommandLine

/-! ## 1. Words -/

/-- The word that an option is named by. -/
def dashed (name : String) : Raw := Word.hyphen :: Word.hyphen :: Text.Utf8.bytes name

/-- The word that names an option and gives its value. -/
def joined (name : String) (raw : Raw) : Raw := dashed name ++ Word.equals :: raw

/-- The word that names an option by a letter, with what follows the letter. -/
def byLetter (c : Char) (rest : Raw) : Raw := Word.hyphen :: (String.utf8EncodeChar c ++ rest)

/-- A name that can be told from what stands around it in a word. -/
structure IsName (name : String) : Prop where
  ne_nil : Text.Utf8.bytes name ≠ []
  not_mem_equals : Word.equals ∉ Text.Utf8.bytes name

namespace Word

theorem ofRaw_dashed {name : String} (h : IsName name) :
    ofRaw (dashed name) = .long (Text.Utf8.bytes name) none := by
  have hempty : ¬(Text.Utf8.bytes name).isEmpty = true := by simpa using h.ne_nil
  rw [dashed, ofRaw, if_pos rfl, if_pos rfl, if_neg hempty, ofLong,
    Text.cutAt_of_not_mem h.not_mem_equals]

theorem ofRaw_joined {name : String} (h : IsName name) (raw : Raw) :
    ofRaw (joined name raw) = .long (Text.Utf8.bytes name) (some raw) := by
  have hempty : ¬(Text.Utf8.bytes name ++ equals :: raw).isEmpty = true := by simp
  rw [joined, dashed, List.cons_append, List.cons_append, ofRaw, if_pos rfl, if_pos rfl,
    if_neg hempty, ofLong, Text.cutAt_append h.not_mem_equals]

theorem ofRaw_byLetter {c : Char} (h : (String.utf8EncodeChar c).head? ≠ some hyphen) (rest : Raw) :
    ofRaw (byLetter c rest) = .short (String.utf8EncodeChar c ++ rest) := by
  have hnil : String.utf8EncodeChar c ≠ [] := by
    rw [Ne, ← List.length_eq_zero_iff, String.length_utf8EncodeChar]
    exact Nat.ne_of_gt c.utf8Size_pos
  obtain ⟨b, bs, hbytes⟩ := List.exists_cons_of_ne_nil hnil
  have hb : b ≠ hyphen := fun hb => h (by rw [hbytes, hb, List.head?_cons])
  rw [byLetter, hbytes, List.cons_append, ofRaw, if_pos rfl, if_neg hb]

theorem ofRaw_eq_plain {raw : Raw} (h : raw.head? ≠ some hyphen) : ofRaw raw = .plain := by
  match raw, h with
  | [], _ => rfl
  | [_], _ => rfl
  | a :: b :: rest, h => rw [ofRaw, if_neg fun ha => h (by rw [ha, List.head?_cons])]

end Word

theorem textOf_encode (cs : List Char) : textOf (Text.Utf8.encode cs) = .ok cs := by
  rw [textOf, Text.Utf8.decode_eq_ok_iff.mpr rfl]

theorem Parameter.read_text [Url.Domains] {p : Parameter} (hp : p.kind = .text) (s : String) :
    p.read (Text.Utf8.bytes s) = .ok (.text s) := by
  rw [read, hp]
  dsimp only
  rw [Text.Utf8.bytes, textOf_encode]
  show Except.ok (Value.text (String.ofList s.toList)) = _
  rw [String.ofList_toList]

theorem Reading.splitLetters_encode (c : Char) (rest : Raw) :
    splitLetters (String.utf8EncodeChar c ++ rest) =
      match rest with
      | [] => some (c, none)
      | b :: raw => some (c, some (if b = Word.equals then raw else b :: raw)) := by
  rw [splitLetters, Text.Utf8.pieces_encode]
  dsimp only
  rw [← String.length_utf8EncodeChar, List.drop_left]
  cases rest <;> rfl

/-! ## 2. Written command lines -/

/-- An option of a command. -/
structure Form.HasOption (f : Form) (p : Parameter) : Prop where
  isName : IsName p.name
  named_eq : f.named (Text.Utf8.bytes p.name) = some p

/-- An option of a command that has a letter. -/
structure Form.HasLetter (f : Form) (p : Parameter) (c : Char) : Prop where
  head?_ne : (String.utf8EncodeChar c).head? ≠ some Word.hyphen
  lettered_eq : f.lettered c = some p

/-- The word names the option. -/
inductive Form.Names (f : Form) (p : Parameter) : Raw → Prop
  | name (h : f.HasOption p) : Names f p (dashed p.name)
  | letter {c : Char} (h : f.HasLetter p c) : Names f p (byLetter c [])

/-- The word names the option and has a value in it. Behind a letter, nothing has to stand between. -/
inductive Form.NamesWith (f : Form) (p : Parameter) (raw : Raw) : Raw → Prop
  | name (h : f.HasOption p) : NamesWith f p raw (joined p.name raw)
  | letter {c : Char} (h : f.HasLetter p c) : NamesWith f p raw (byLetter c (Word.equals :: raw))
  | attached {c : Char} (h : f.HasLetter p c) (hnil : raw ≠ [])
      (hequals : raw.head? ≠ some Word.equals) : NamesWith f p raw (byLetter c raw)

theorem Reading.not_mem_of_nodup {p : Parameter} {vs : List Value}
    {given g : Given}
    (h : ((given ++ (p.name, vs) :: g).map Prod.fst).Nodup) : p.name ∉ given.map Prod.fst := by
  rw [List.map_append, List.map_cons] at h
  intro hmem
  exact (List.nodup_append.mp h).2.2 p.name hmem p.name List.mem_cons_self rfl

variable [Url.Domains]

/-- The words give the option one value. -/
inductive Gives (f : Form) (p : Parameter) : Value → List Raw → Prop
  | apart {word raw : Raw} {v : Value} (hword : f.Names p word) (hlist : p.isList = false)
      (hplain : Word.ofRaw raw = .plain) (hread : p.read raw = .ok v) : Gives f p v [word, raw]
  | joined {word raw : Raw} {v : Value} (hword : f.NamesWith p raw word)
      (hread : p.read raw = .ok v) : Gives f p v [word]

/-- The words give these values to parameters, where the places have not been taken before. A list of
values ends at the next option, so it leaves no place behind it. -/
inductive Written (f : Form) : List Parameter → Given → List Raw → Prop
  | nil {places : List Parameter} : Written f places [] []
  | place {p : Parameter} {places : List Parameter} {raw : Raw} {v : Value} {g : Given}
      {words : List Raw} (hplain : Word.ofRaw raw = .plain) (hread : p.read raw = .ok v)
      (h : Written f places g words) :
    Written f (p :: places) ((p.name, [v]) :: g) (raw :: words)
  | option {p : Parameter} {places : List Parameter} {front : List Raw} {v : Value} {g : Given}
      {words : List Raw} (hfront : Gives f p v front) (h : Written f places g words) :
    Written f places ((p.name, [v]) :: g) (front ++ words)
  | list {p : Parameter} {word : Raw} {raws : List Raw} {vs : List Value} {g : Given}
      {words : List Raw} (hword : f.Names p word) (hlist : p.isList = true)
      (hplain : ∀ raw ∈ raws, Word.ofRaw raw = .plain) (hread : raws.mapM p.read = .ok vs)
      (h : Written f [] g words) :
    Written f [] ((p.name, vs) :: g) ((word :: raws) ++ words)

/-! ## 3. Reading them -/

namespace Reading

/-- A reading that, once the words collected last are read too, knows these values and still has these
places. While there are places, no plain word belongs to an option. -/
structure Knows (r : Reading) (given : Given) (places : List Parameter) : Prop where
  settle_eq : r.settle = .ok { given, positionals := places }
  positionals_eq : r.positionals = places
  isOpen_eq : places ≠ [] → r.isOpen = false
  isMarked_eq : r.isMarked = false

theorem accept_eq_ok {r : Reading} {p : Parameter} {raws : List Raw} {vs : List Value}
    (hsome : raws ≠ [] ∨ p.isList = true) (hnew : p.name ∉ r.given.map Prod.fst)
    (hread : raws.mapM p.read = .ok vs) :
    r.accept p raws =
      .ok { r with given := r.given ++ [(p.name, vs)], pending := none, isOpen := false } := by
  have hany : r.given.any (·.1 == p.name) = false := by
    rw [List.any_eq_false]
    intro entry hentry hname
    exact hnew (List.mem_map.mpr ⟨entry, hentry, eq_of_beq hname⟩)
  have hempty : (raws.isEmpty && !p.isList) = false := by
    rcases hsome with hnil | hlist
    · simp [hnil]
    · simp [hlist]
  rw [accept, hempty, hany, hread, Bool.and_false]
  rfl

theorem mapM_read_singleton {p : Parameter} {raw : Raw} {v : Value} (h : p.read raw = .ok v) :
    [raw].mapM p.read = .ok [v] := by
  rw [List.mapM_cons, h]
  rfl

/-- The reading in which words are collected for a parameter. -/
def collecting (given : Given) (places : List Parameter) (p : Parameter) (raws : List Raw)
    (isOpen : Bool) : Reading :=
  { given, pending := some (p, raws), isOpen, positionals := places }

theorem knows_collecting {given : Given} {places : List Parameter} {p : Parameter}
    {raws : List Raw} {vs : List Value} {isOpen : Bool} (hopen : places ≠ [] → isOpen = false)
    (hsome : raws ≠ [] ∨ p.isList = true) (hnew : p.name ∉ given.map Prod.fst)
    (hread : raws.mapM p.read = .ok vs) :
    Knows (collecting given places p raws isOpen) (given ++ [(p.name, vs)]) places where
  settle_eq := accept_eq_ok hsome hnew hread
  positionals_eq := rfl
  isOpen_eq := hopen
  isMarked_eq := rfl

theorem knows_settled {given : Given} {places : List Parameter} :
    Knows { given, positionals := places } given places where
  settle_eq := rfl
  positionals_eq := rfl
  isOpen_eq _ := rfl
  isMarked_eq := rfl

variable {f : Form} {r : Reading} {given : Given} {places : List Parameter}

theorem step_place {p : Parameter} (h : Knows r given (p :: places)) {raw : Raw}
    (hplain : Word.ofRaw raw = .plain) :
    step f r raw = .ok (collecting given places p [raw] false) := by
  have hclosed : r.plain raw = r.place raw := by
    rw [plain, h.isOpen_eq (List.cons_ne_nil p places)]
  rw [step, h.isMarked_eq, hplain]
  dsimp only
  rw [hclosed, place, h.positionals_eq]
  dsimp only
  rw [h.settle_eq]
  rfl

theorem option_of_knows (h : Knows r given places) (p : Parameter) (value : Option Raw) :
    r.option p value =
      match value with
      | some raw => accept { given, positionals := places } p [raw]
      | none => .ok (collecting given places p [] true) := by
  rw [option, h.settle_eq]
  cases value <;> rfl

theorem step_of_long {p : Parameter} {word : Raw} {value : Option Raw} (hmarked : r.isMarked = false)
    (hp : f.HasOption p) (hword : Word.ofRaw word = .long (Text.Utf8.bytes p.name) value) :
    step f r word = (r.option p value).mapError .misuse := by
  rw [step, hmarked, hword]
  dsimp only
  rw [long.eq_def, hp.named_eq]
  rfl

theorem step_of_short {p : Parameter} {c : Char} {rest : Raw} {value : Option Raw}
    (hmarked : r.isMarked = false) (hp : f.HasLetter p c)
    (hsplit : splitLetters (String.utf8EncodeChar c ++ rest) = some (c, value)) :
    step f r (byLetter c rest) = (r.option p value).mapError .misuse := by
  rw [step, hmarked, Word.ofRaw_byLetter hp.head?_ne]
  dsimp only
  rw [short, hsplit]
  dsimp only
  rw [hp.lettered_eq]
  rfl

theorem step_of_names {p : Parameter} {word : Raw} (h : Knows r given places)
    (hword : f.Names p word) : step f r word = .ok (collecting given places p [] true) := by
  have hstep : step f r word = (r.option p none).mapError .misuse := by
    cases hword with
    | name hp => exact step_of_long h.isMarked_eq hp (Word.ofRaw_dashed hp.isName)
    | letter hp => exact step_of_short h.isMarked_eq hp (splitLetters_encode _ [])
  rw [hstep, option_of_knows h p none]
  rfl

theorem step_of_namesWith {p : Parameter} {word raw : Raw} (h : Knows r given places)
    (hword : f.NamesWith p raw word) :
    step f r word = (accept { given, positionals := places } p [raw]).mapError .misuse := by
  have hstep : step f r word = (r.option p (some raw)).mapError .misuse := by
    cases hword with
    | name hp => exact step_of_long h.isMarked_eq hp (Word.ofRaw_joined hp.isName raw)
    | letter hp => exact step_of_short h.isMarked_eq hp (splitLetters_encode _ _)
    | attached hp hnil hequals =>
      obtain ⟨b, raw, rfl⟩ := List.exists_cons_of_ne_nil hnil
      have hb : b ≠ Word.equals := fun hb => hequals (by rw [hb, List.head?_cons])
      refine step_of_short h.isMarked_eq hp ?_
      rw [splitLetters_encode]
      dsimp only
      rw [if_neg hb]
  rw [hstep, option_of_knows h p (some raw)]

theorem step_collecting {p : Parameter} {raws : List Raw} {raw : Raw}
    (hplain : Word.ofRaw raw = .plain) :
    step f (collecting given places p raws true) raw =
      .ok (collecting given places p (raws ++ [raw]) p.isList) := by
  rw [step, hplain]
  rfl

theorem foldlM_collecting {p : Parameter} (hlist : p.isList = true) {raws : List Raw}
    (hplain : ∀ raw ∈ raws, Word.ofRaw raw = .plain) (before : List Raw) :
    raws.foldlM (step f) (collecting given places p before true) =
      .ok (collecting given places p (before ++ raws) true) := by
  induction raws generalizing before with
  | nil =>
    rw [List.append_nil]
    rfl
  | cons raw raws ih =>
    rw [List.forall_mem_cons] at hplain
    rw [List.foldlM_cons, step_collecting hplain.1, hlist, List.append_cons before raw raws]
    exact ih hplain.2 (before ++ [raw])

/-- The words for one value of an option lead to a reading that knows it. -/
theorem foldlM_of_gives {p : Parameter} {v : Value} {front : List Raw} (h : Knows r given places)
    (hfront : Gives f p v front) (hnew : p.name ∉ given.map Prod.fst) :
    ∃ r', front.foldlM (step f) r = .ok r' ∧ Knows r' (given ++ [(p.name, [v])]) places := by
  cases hfront with
  | @apart word raw _ hword hlist hplain hread =>
    have hvalue : step f (collecting given places p [] true) raw =
        .ok (collecting given places p [raw] false) := by
      rw [step_collecting hplain, hlist, List.nil_append]
    refine ⟨_, ?_, knows_collecting (fun _ => rfl) (.inl (List.cons_ne_nil raw []))
      hnew (mapM_read_singleton hread)⟩
    rw [List.foldlM_cons, step_of_names h hword]
    show [raw].foldlM (step f) _ = _
    rw [List.foldlM_cons, hvalue]
    rfl
  | @joined word raw _ hword hread =>
    have hvalue := accept_eq_ok (r := { given, positionals := places })
      (.inl (List.cons_ne_nil raw [])) hnew (mapM_read_singleton hread)
    refine ⟨_, ?_, knows_settled⟩
    rw [List.foldlM_cons, step_of_namesWith h hword, hvalue]
    rfl

-- the induction is on the written words; what is known grows by one entry for each parameter
theorem foldlM_of_written {g : Given} {words : List Raw} (h : Knows r given places)
    (hwords : Written f places g words) (hnew : ((given ++ g).map Prod.fst).Nodup) :
    ∃ r' rest, words.foldlM (step f) r = .ok r' ∧ Knows r' (given ++ g) rest := by
  induction hwords generalizing r given with
  | @nil places =>
    rw [List.append_nil]
    exact ⟨r, places, rfl, h⟩
  | @place p places raw v g words hplain hread hrest ih =>
    have hname := not_mem_of_nodup hnew
    rw [List.append_cons] at hnew ⊢
    have hknows : Knows (collecting given places p [raw] false) (given ++ [(p.name, [v])]) places :=
      knows_collecting (fun _ => rfl) (.inl (List.cons_ne_nil raw [])) hname
        (mapM_read_singleton hread)
    obtain ⟨r', rest, hfold, hknows'⟩ := ih hknows hnew
    refine ⟨r', rest, ?_, hknows'⟩
    rw [List.foldlM_cons, step_place h hplain]
    exact hfold
  | @option p places front v g words hfront hrest ih =>
    have hname := not_mem_of_nodup hnew
    rw [List.append_cons] at hnew ⊢
    obtain ⟨r₁, hfirst, hknows₁⟩ := foldlM_of_gives h hfront hname
    obtain ⟨r', rest, hfold, hknows'⟩ := ih hknows₁ hnew
    refine ⟨r', rest, ?_, hknows'⟩
    rw [List.foldlM_append, hfirst]
    exact hfold
  | @list p word raws vs g words hword hlist hplain hread hrest ih =>
    have hname := not_mem_of_nodup hnew
    rw [List.append_cons] at hnew ⊢
    have hknows : Knows (collecting given [] p raws true) (given ++ [(p.name, vs)]) [] :=
      knows_collecting (fun hnil => absurd rfl hnil) (.inr hlist) hname hread
    obtain ⟨r', rest, hfold, hknows'⟩ := ih hknows hnew
    refine ⟨r', rest, ?_, hknows'⟩
    rw [List.foldlM_append, List.foldlM_cons, step_of_names h hword]
    show (raws.foldlM (step f) _ >>= _) = _
    rw [foldlM_collecting hlist hplain, List.nil_append]
    exact hfold

end Reading

/-- A written command line is read as the values that were written, if no parameter is written
twice. -/
theorem Form.read_of_written {f : Form} {g : Given} {words : List Raw}
    (h : Written f f.positionals g words) (hnew : (g.map Prod.fst).Nodup) :
    f.read words = .ok g := by
  have hstart : Reading.Knows { positionals := f.positionals } [] f.positionals :=
    Reading.knows_settled
  obtain ⟨r, rest, hfold, hknows⟩ := Reading.foldlM_of_written hstart h hnew
  rw [Form.read, hfold]
  show ((r.settle.mapError Stop.misuse).bind fun r => .ok r.given) = _
  rw [hknows.settle_eq]
  rfl

end Preflight.CommandLine
