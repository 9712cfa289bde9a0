import Mathlib.Data.List.Nodup
import Preflight.Proofs.Config.Accepted
import Preflight.Proofs.Toml.ReadBack

/-!
Configurations as they are written: perhaps a mode, and the table `finalization` with some of the
fields of the policy, in any order and any layout. Such a document is accepted if its numbers fit,
and then it sets what is written in it and nothing else.
-/

namespace Preflight

namespace Document

open Toml PolicyField

/-! ## 1. What is written -/

/-- The numbers that a document can give for a field lie below this: its integers have a sign, so
that of sixty-four bits one is lost. -/
def PolicyField.limit (field : PolicyField) : Nat :=
  match field.width with
  | .bits64 => Nat.pow 2 63
  | .bits32 => Nat.pow 2 32

/-- Numbers for some fields of the policy, in the order in which they are written. -/
structure IsChoice (given : List (PolicyField × Nat)) : Prop where
  nodup : (given.map Prod.fst).Nodup
  lt_limit : ∀ p ∈ given, p.2 < p.1.limit
  backoff_ne_zero : (backoff, 0) ∉ given

def modeRows (mode : Option Mode) : List (String × Datum) :=
  (mode.map fun m => (modeKey, Datum.text m.word)).toList

def fieldRows (given : List (PolicyField × Nat)) : List (String × Datum) :=
  given.map fun p => (p.1.key, Datum.integer p.2)

/-- The document says nothing but the mode, if there is one, and the numbers in the table. -/
structure Writes (mode : Option Mode) (given : List (PolicyField × Nat)) (d : Draft) : Prop where
  title : d.title.key.name = finalizationKey
  root : rows d.root = modeRows mode
  table : rows d.table = fieldRows given

/-- A line that gives a mode. -/
def modeLine (m : Mode) : Entry :=
  .row ⟨.none, .bare modeKey.toList (by decide) (List.all_eq_true.mp (by decide)), .space, .space,
    .text false m.word.toList (isPlain_of_all (by cases m <;> decide)), .plain⟩

/-- A line that gives the number for a field. -/
def fieldLine (p : PolicyField × Nat) : Entry :=
  .row ⟨.none, .bare p.1.key.toList (by cases p.1 <;> decide)
    (List.all_eq_true.mp (by cases p.1 <;> decide)), .space, .space, .integer p.2, .plain⟩

/-- The document that gives a mode and numbers, line by line. -/
def draft (mode : Option Mode) (given : List (PolicyField × Nat)) : Draft where
  root := (mode.map modeLine).toList
  title := ⟨.none, .none, .bare finalizationKey.toList (by decide)
    (List.all_eq_true.mp (by decide)), .none, .plain⟩
  table := given.map fieldLine

theorem rows_modeLine (m : Mode) : (modeLine m).rows = [(modeKey, .text m.word)] := by
  simp [modeLine, Entry.rows, Key.name, Item.datum]

theorem rows_fieldLine (p : PolicyField × Nat) :
    (fieldLine p).rows = [(p.1.key, .integer p.2)] := by
  simp [fieldLine, Entry.rows, Key.name, Item.datum]

theorem writes_draft (mode : Option Mode) (given : List (PolicyField × Nat)) :
    Writes mode given (draft mode given) where
  title := String.ofList_toList
  root := by
    cases mode with
    | none => rfl
    | some m => exact (List.flatMap_singleton _ _).trans (rows_modeLine m)
  table := by
    show rows (given.map fieldLine) = fieldRows given
    rw [rows, List.flatMap_map, fieldRows, List.map_eq_flatMap]
    exact List.flatMap_congr fun p _ => rows_fieldLine p

example : (draft (some .test) [(backoff, 3), (pollInterval, 250)]).text =
    "mode = \"test\"\n[finalization]\nbackoff = 3\npoll_interval_ms = 250" := by
  decide +kernel

/-- What must not be in a document, whatever else is in it. -/
inductive IsFlawed (d : Draft) : Prop
  | zeroBackoff (h : (backoff.key, .integer 0) ∈ rows d.table)
  | negative {k : String} {n : Int} (h : (k, .integer n) ∈ rows d.table) (hn : n < 0)
  | tooLarge {field : PolicyField} {n : Nat} (h : (field.key, .integer n) ∈ rows d.table)
      (hn : field.limit ≤ n)
  | repeatedInRoot (h : ¬((rows d.root).map Prod.fst).Nodup)
  | repeatedInTable (h : ¬((rows d.table).map Prod.fst).Nodup)
  | unknownInRoot {k : String} {x : Datum} (h : (k, x) ∈ rows d.root) (hk : k ≠ modeKey)
  | unknownInTable {k : String} {x : Datum} (h : (k, x) ∈ rows d.table)
      (hk : ∀ field : PolicyField, k ≠ field.key)

/-- Where the document can be read, it has a section for the table. -/
def HasTable (text : String) : Prop :=
  ∀ ss, sections text.toList = .ok ss → ∃ s ∈ ss, s.header.head? = some finalizationKey

/-! ## 2. Lines of the table -/

theorem PolicyField.lt_limit_iff {field : PolicyField} {n : Nat} :
    n < field.limit ↔ IsWord n ∧ (n : Int) < field.width.bound := by
  have h63 : integerBound = 9223372036854775808 := by decide
  have h64 : Width.bits64.bound = 18446744073709551616 := by decide
  have h32 : Width.bits32.bound = 4294967296 := by decide
  rw [limit, IsWord, h63]
  cases field.width with
  | bits64 =>
    rw [h64]
    show n < 9223372036854775808 ↔ _
    omega
  | bits32 =>
    rw [h32]
    show n < 4294967296 ↔ _
    omega

variable {es : List Entry} {o : Nat}

theorem pairsGive_pairsFrom_iff {field : PolicyField} {n : Nat} :
    PairsGive (pairsFrom o es) field n ↔ (field.key, Datum.integer n) ∈ rows es := by
  constructor
  · rintro ⟨offset, h⟩
    obtain ⟨x, o', hx, hv⟩ := mem_pairsFrom h
    cases x with
    | integer m =>
      cases hv
      exact hx
    | text s => exact nomatch hv
  · exact fun h => exists_mem_pairsFrom h

/-- The lines of the table are accepted exactly if no key is repeated and each names a field, with a
number that its word can hold. -/
theorem exists_setPairs_pairsFrom_iff : (∃ p, setPairs {} (pairsFrom o es) = .ok p) ↔
    ((rows es).map Prod.fst).Nodup ∧ ∀ k x, (k, x) ∈ rows es → ∃ (field : PolicyField) (n : Nat),
      k = field.key ∧ x = .integer n ∧ (n : Int) < field.width.bound := by
  rw [exists_setPairs_iff, map_fst_pairsFrom]
  refine and_congr_right fun _ => ⟨fun h k x hx => ?_, fun h k v hv => ?_⟩
  · obtain ⟨o', hv⟩ := exists_mem_pairsFrom (o := o) hx
    obtain ⟨field, n, hk, -, hnumber⟩ := h _ _ hv
    obtain ⟨⟨offset, hvalue⟩, hn⟩ := number_eq_ok_iff.mp hnumber
    cases x with
    | integer m =>
      cases hvalue
      exact ⟨field, n, hk, rfl, hn⟩
    | text s => exact nomatch hvalue
  · obtain ⟨x, o', hx, rfl⟩ := mem_pairsFrom hv
    obtain ⟨field, n, hk, rfl, hn⟩ := h k x hx
    exact ⟨field, n, hk, valueOf_empty field, number_eq_ok_iff.mpr ⟨⟨o', rfl⟩, hn⟩⟩

/-! ## 3. Lines before the table -/

theorem modeNamed_word (m : Mode) : modeNamed m.word = .ok m := by
  cases m with
  | live => rfl
  | test => rfl

theorem setRootPairs_modeRows {mode : Option Mode} (h : rows es = modeRows mode) :
    setRootPairs {} (pairsFrom o es) = .ok { mode } := by
  have hkeys := map_fst_pairsFrom o es
  rw [h] at hkeys
  cases mode with
  | none =>
    rw [List.map_eq_nil_iff.mp hkeys]
    rfl
  | some m =>
    obtain ⟨⟨k, v⟩, rest, hpairs, hk, hrest⟩ := List.map_eq_cons_iff.mp hkeys
    cases hk
    have hmem : (modeKey, v) ∈ pairsFrom o es := by
      rw [hpairs]
      exact List.mem_cons_self
    obtain ⟨x, o', hx, rfl⟩ := mem_pairsFrom hmem
    rw [h] at hx
    cases List.mem_singleton.mp hx
    have hmode : modeOf ((Datum.text m.word).value o') = .ok m := modeNamed_word m
    rw [hpairs, List.map_eq_nil_iff.mp hrest]
    exact (setRootPairs_eq_ok_iff.mpr (.inr ⟨_, m, rfl, hmode, rfl⟩)).1

theorem rows_of_setRootPairs {f : Fields} (h : setRootPairs {} (pairsFrom o es) = .ok f)
    (hnone : f.finalization = none) : ((rows es).map Prod.fst).Nodup ∧
      ∀ k ∈ (rows es).map Prod.fst, k = modeKey := by
  rw [← map_fst_pairsFrom o]
  rcases setRootPairs_eq_ok_iff.mp ⟨h, hnone⟩ with ⟨hpairs, -⟩ | ⟨v, -, hpairs, -⟩
  · rw [hpairs]
    exact ⟨List.nodup_nil, fun _ hk => nomatch hk⟩
  · rw [hpairs]
    exact ⟨List.nodup_singleton _, fun k hk => List.mem_singleton.mp hk⟩

/-! ## 4. What is accepted -/

variable {d : Draft}

theorem ofDocument_text_eq_ok_iff (htitle : d.title.key.name = finalizationKey) : ∃ o, ∀ c,
    Config.ofDocument d.text = .ok c ↔ d.IsFit ∧ ∃ f p,
      (setRootPairs {} (pairsFrom 0 d.root) = .ok f ∧ f.finalization = none) ∧
        setPairs {} (pairsFrom o d.table) = .ok p ∧ p.policy.backoff ≠ 0 ∧
          c = ⟨f.mode.getD .live, p.policy⟩ := by
  obtain ⟨o₁, o₂, hsections⟩ := d.sections_eq_ok_iff
  rw [htitle] at hsections
  refine ⟨o₂, fun c => ?_⟩
  rw [Config.ofDocument_eq_ok_iff]
  simp only [hsections]
  constructor
  · rintro ⟨ss, g, ⟨hfit, rfl⟩, hg, hbackoff, rfl⟩
    obtain ⟨f, p, hf, hp, rfl⟩ := fieldsOf_table.mp hg
    exact ⟨hfit, f, p, hf, hp, hbackoff, rfl⟩
  · rintro ⟨hfit, f, p, hf, hp, hbackoff, rfl⟩
    exact ⟨_, _, ⟨hfit, rfl⟩, fieldsOf_table.mpr ⟨f, p, hf, hp, rfl⟩, hbackoff, rfl⟩

theorem backoff_policy_eq_zero_iff {p : PolicyFields} :
    p.policy.backoff = 0 ↔ backoff.valueOf p = some 0 := by
  have hword : p.policy.backoff = 0 ↔ backoff.valueIn p.policy = some 0 := by
    rw [PolicyField.valueIn, Option.some.injEq, ← UInt32.toNat_inj]
    rfl
  rw [hword, valueIn_policy]
  cases backoff.valueOf p with
  | none =>
    constructor
    · intro h
      cases h
    · intro h
      cases h
  | some n => simp [worth]

/-- A document with a flaw is not accepted. -/
theorem not_accepted_of_isFlawed (htitle : d.title.key.name = finalizationKey) (h : IsFlawed d)
    (c : Config) : Config.ofDocument d.text ≠ .ok c := by
  intro hok
  obtain ⟨o, hiff⟩ := ofDocument_text_eq_ok_iff htitle
  obtain ⟨hfit, f, p, ⟨hroot, hnone⟩, htable, hbackoff, -⟩ := (hiff c).mp hok
  obtain ⟨hrootNodup, hmode⟩ := rows_of_setRootPairs hroot hnone
  obtain ⟨hnodup, hrows⟩ := exists_setPairs_pairsFrom_iff.mp ⟨p, htable⟩
  cases h with
  | zeroBackoff h =>
    have hzero := (valueOf_setPairs htable backoff 0).mpr (.inr (pairsGive_pairsFrom_iff.mpr h))
    exact hbackoff (backoff_policy_eq_zero_iff.mpr hzero)
  | negative h hn =>
    obtain ⟨_, m, -, hx, -⟩ := hrows _ _ h
    cases hx
    exact absurd hn (by omega)
  | @tooLarge field n h hn =>
    obtain ⟨other, m, hkey, hx, hm⟩ := hrows _ _ h
    cases key_injective hkey
    cases hx
    have hword : IsWord n := hfit _ (List.mem_append_right _ h)
    exact absurd (lt_limit_iff.mpr ⟨hword, hm⟩) (Nat.not_lt.mpr hn)
  | repeatedInRoot h => exact h hrootNodup
  | repeatedInTable h => exact h hnodup
  | unknownInRoot h hk => exact hk (hmode _ (List.mem_map_of_mem h))
  | unknownInTable h hk =>
    obtain ⟨field, _, hkey, -⟩ := hrows _ _ h
    exact hk field hkey

section Writes

variable {mode : Option Mode} {given : List (PolicyField × Nat)}

theorem mem_fieldRows_iff {field : PolicyField} {n : Nat} :
    (field.key, Datum.integer n) ∈ fieldRows given ↔ (field, n) ∈ given := by
  rw [fieldRows, List.mem_map]
  constructor
  · rintro ⟨⟨other, m⟩, hmem, heq⟩
    obtain ⟨hkey, hn⟩ := Prod.mk.inj heq
    cases key_injective hkey
    cases hn
    exact hmem
  · exact fun hmem => ⟨_, hmem, rfl⟩

theorem map_fst_fieldRows :
    (fieldRows given).map Prod.fst = (given.map Prod.fst).map PolicyField.key := by
  rw [fieldRows, List.map_map, List.map_map]
  rfl

theorem Writes.isFit (h : Writes mode given d) (hgiven : IsChoice given) : d.IsFit := by
  rw [Draft.IsFit, h.root, h.table, List.forall_mem_append]
  constructor
  · cases mode with
    | none =>
      intro p hp
      cases hp
    | some m =>
      intro p hp
      cases List.mem_singleton.mp hp
      trivial
  · intro p hp
    obtain ⟨⟨field, n⟩, hmem, rfl⟩ := List.mem_map.mp hp
    exact (lt_limit_iff.mp (hgiven.lt_limit _ hmem)).1

/-- A choice of numbers that is written down is accepted, with the mode. -/
theorem Writes.exists_config (h : Writes mode given d) (hgiven : IsChoice given) : ∃ c,
    Config.ofDocument d.text = .ok c ∧ c.mode = mode.getD Config.standard.mode ∧
      KeepsGiven (fun field n => (field, n) ∈ given) c.finalization := by
  obtain ⟨o, hiff⟩ := ofDocument_text_eq_ok_iff h.title
  have hroot := setRootPairs_modeRows (o := 0) h.root
  obtain ⟨p, hp⟩ : ∃ p, setPairs {} (pairsFrom o d.table) = .ok p := by
    rw [exists_setPairs_pairsFrom_iff, h.table, map_fst_fieldRows]
    refine ⟨hgiven.nodup.map fun _ _ => key_injective, fun k x hx => ?_⟩
    obtain ⟨⟨field, n⟩, hmem, heq⟩ := List.mem_map.mp hx
    cases heq
    exact ⟨field, n, rfl, rfl, (lt_limit_iff.mp (hgiven.lt_limit _ hmem)).2⟩
  have hvalue : ∀ (field : PolicyField) n, field.valueOf p = some n ↔ (field, n) ∈ given := by
    intro field n
    rw [valueOf_setPairs hp, valueOf_empty, pairsGive_pairsFrom_iff, h.table, mem_fieldRows_iff]
    simp
  have hbackoff : p.policy.backoff ≠ 0 := by
    rw [Ne, backoff_policy_eq_zero_iff, hvalue]
    exact hgiven.backoff_ne_zero
  exact ⟨_, (hiff _).mpr ⟨h.isFit hgiven, _, p, ⟨hroot, rfl⟩, hp, hbackoff, rfl⟩, rfl,
    keepsGiven_policy hvalue⟩

theorem IsChoice.perm {given' : List (PolicyField × Nat)} (hgiven : IsChoice given)
    (h : given'.Perm given) : IsChoice given' where
  nodup := (h.map Prod.fst).nodup_iff.mpr hgiven.nodup
  lt_limit := fun p hp => hgiven.lt_limit p (h.mem_iff.mp hp)
  backoff_ne_zero := fun hzero => hgiven.backoff_ne_zero (h.mem_iff.mp hzero)

end Writes

/-! ## 5. Further keys and tables -/

section Further

variable {indent : Blanks} {k : Key} {rest : List Char}

theorem not_accepted_root_key {root : List Entry} (hkey : k.EndsAt rest)
    (hmode : k.name ≠ modeKey) (hfinalization : k.name ≠ finalizationKey) (c : Config) :
    Config.ofDocument (furtherText (linesBefore root) indent k.piece rest) ≠ .ok c := by
  intro hok
  obtain ⟨ss, f, hss, hf, -⟩ := Config.ofDocument_eq_ok_iff.mp hok
  obtain ⟨s, more, rfl, hheader, hmem⟩ := sections_root_key hkey hss
  obtain ⟨f', hpairs⟩ := (exists_pairs_of_fieldsOf hf).2 s rfl hheader
  exact (mem_keys_of_setRootPairs hpairs _ hmem).elim hmode hfinalization

theorem not_accepted_root_table {root : List Entry} (hkey : k.EndsAt rest)
    (hfinalization : k.name = finalizationKey)
    (htable : HasTable (furtherText (linesBefore root) indent k.piece rest)) (c : Config) :
    Config.ofDocument (furtherText (linesBefore root) indent k.piece rest) ≠ .ok c := by
  intro hok
  obtain ⟨ss, f, hss, hf, -⟩ := Config.ofDocument_eq_ok_iff.mp hok
  obtain ⟨s, hs, hhead⟩ := htable ss hss
  obtain ⟨first, more, rfl, hheader, hmem⟩ := sections_root_key hkey hss
  rw [hfinalization] at hmem
  rcases List.mem_cons.mp hs with rfl | hs
  · rw [hheader] at hhead
    exact nomatch hhead
  · exact head_ne_finalization_of_fieldsOf hf hheader hmem s hs hhead

variable (htitle : d.title.key.name = finalizationKey)

include htitle

theorem not_accepted_table_key (hkey : k.EndsAt rest)
    (hunknown : ∀ field : PolicyField, k.name ≠ field.key) (c : Config) :
    Config.ofDocument (furtherText d.closed indent k.piece rest) ≠ .ok c := by
  intro hok
  obtain ⟨ss, f, hss, hf, -⟩ := Config.ofDocument_eq_ok_iff.mp hok
  obtain ⟨s, hs, hheader, hmem⟩ := Draft.sections_key hkey hss
  rw [htitle] at hheader
  have hpairs := (exists_pairs_of_fieldsOf hf).1 s hs hheader
  obtain ⟨⟨_, v⟩, hv, rfl⟩ := List.mem_map.mp hmem
  obtain ⟨field, _, hfield, -⟩ := (exists_setPairs_iff.mp hpairs).2 _ _ hv
  exact hunknown field hfield

theorem not_accepted_table (c : Config) :
    Config.ofDocument (furtherText d.closed indent leftBracket rest) ≠ .ok c := by
  intro hok
  obtain ⟨ss, f, hss, hf, -⟩ := Config.ofDocument_eq_ok_iff.mp hok
  obtain ⟨root, table, s, more, rfl, hroot, htable⟩ := Draft.sections_leftBracket hss
  exact not_fieldsOf_table hroot (htable.trans (by rw [htitle])) hf

end Further

/-! ## 6. Written configurations -/

/-- A document that gives a choice of numbers, and perhaps a mode, sets these and keeps the standard
in all other fields, whatever the order of the fields and the layout. It is refused with a zero for
the backoff, with a number that is negative or too large for its field, with a repeated key, or with
a key that is not known, before the table or in it. Such a key is refused whatever follows it, and
so is another table; before the table, a key of its name is refused with any value. -/
theorem ofDocument_overlays :
    (∀ (d : Draft) (mode : Option Mode) (given : List (PolicyField × Nat)), Writes mode given d →
      IsChoice given → ∃ c, Config.ofDocument d.text = .ok c ∧
        c.mode = mode.getD Config.standard.mode ∧
        KeepsGiven (fun field n => (field, n) ∈ given) c.finalization ∧
        ∀ (d' : Draft) (given' : List (PolicyField × Nat)), Writes mode given' d' →
          given'.Perm given → Config.ofDocument d'.text = .ok c) ∧
    (∀ d : Draft, d.title.key.name = finalizationKey → IsFlawed d →
      ∃ detail, Config.ofDocument d.text = .error (.config detail)) ∧
    (∀ (root : List Entry) (indent : Blanks) (k : Key) (rest : List Char), k.EndsAt rest →
      k.name ≠ modeKey → k.name ≠ finalizationKey → ∃ detail,
        Config.ofDocument (furtherText (linesBefore root) indent k.piece rest) =
          .error (.config detail)) ∧
    (∀ (root : List Entry) (indent : Blanks) (k : Key) (rest : List Char), k.EndsAt rest →
      k.name = finalizationKey → HasTable (furtherText (linesBefore root) indent k.piece rest) →
      ∃ detail, Config.ofDocument (furtherText (linesBefore root) indent k.piece rest) =
        .error (.config detail)) ∧
    (∀ (d : Draft) (indent : Blanks) (rest : List Char), d.title.key.name = finalizationKey →
      (∀ k : Key, k.EndsAt rest → (∀ field : PolicyField, k.name ≠ field.key) → ∃ detail,
        Config.ofDocument (furtherText d.closed indent k.piece rest) = .error (.config detail)) ∧
      ∃ detail, Config.ofDocument (furtherText d.closed indent leftBracket rest) =
        .error (.config detail)) := by
  refine ⟨fun d mode given hwrites hgiven => ?_, fun d htitle hflawed => ?_,
    fun root indent k rest hkey hmode hfinalization => ?_,
    fun root indent k rest hkey hfinalization htable => ?_,
    fun d indent rest htitle => ⟨fun k hkey hunknown => ?_, ?_⟩⟩
  · obtain ⟨c, hc, hmode, hkeeps⟩ := hwrites.exists_config hgiven
    refine ⟨c, hc, hmode, hkeeps, fun d' given' hwrites' hperm => ?_⟩
    obtain ⟨c', hc', hmode', hkeeps'⟩ := hwrites'.exists_config (hgiven.perm hperm)
    have hsame : c' = c :=
      Config.ext (hmode'.trans hmode.symm) (hkeeps'.unique hkeeps fun _ _ => hperm.mem_iff)
    rw [hc', hsame]
  · exact Config.ofDocument_eq_error (not_accepted_of_isFlawed htitle hflawed)
  · exact Config.ofDocument_eq_error (not_accepted_root_key hkey hmode hfinalization)
  · exact Config.ofDocument_eq_error (not_accepted_root_table hkey hfinalization htable)
  · exact Config.ofDocument_eq_error (not_accepted_table_key htitle hkey hunknown)
  · exact Config.ofDocument_eq_error (not_accepted_table htitle)

/-- Two orders of the same numbers, a number that is not allowed, and further keys and tables, with
a list under the name of the table among them. -/
theorem ofDocument_overlays_backoff :
    let c : Config := ⟨.test, { pollInterval := .ofMillis 250, backoff := 3 }⟩
    let k : Key := .quoted true ['a', ' ', 'b'] (isPlain_of_all (by decide))
    let rest : List Char := ['=', '[', '1', ']']
    let again : Key := .bare finalizationKey.toList (by decide) (List.all_eq_true.mp (by decide))
    let table : List Char := "=[]\n[finalization]\nbackoff=3".toList
    Config.ofDocument (draft (some .test) [(backoff, 3), (pollInterval, 250)]).text = .ok c ∧
    Config.ofDocument (draft (some .test) [(pollInterval, 250), (backoff, 3)]).text = .ok c ∧
    (∃ detail, Config.ofDocument (draft none [(pollInterval, 250), (backoff, 0)]).text =
      .error (.config detail)) ∧
    (∃ detail, Config.ofDocument (furtherText (linesBefore [modeLine .live]) .none
      k.piece rest) = .error (.config detail)) ∧
    (∃ detail, Config.ofDocument (furtherText (linesBefore [modeLine .live]) .none
      again.piece table) = .error (.config detail)) ∧
    (∃ detail, Config.ofDocument (furtherText (draft none [(backoff, 3)]).closed .none k.piece
      rest) = .error (.config detail)) ∧
    ∃ detail, Config.ofDocument (furtherText (draft none [(backoff, 3)]).closed .none leftBracket
      rest) = .error (.config detail) := by
  intro c k rest again table
  obtain ⟨haccepted, hflawed, hroot, hagain, htable⟩ := ofDocument_overlays
  have htitle : ∀ mode given, (draft mode given).title.key.name = finalizationKey :=
    fun mode given => (writes_draft mode given).title
  have hchoice : IsChoice [(backoff, 3), (pollInterval, 250)] :=
    ⟨by decide, by decide, by decide⟩
  obtain ⟨c', hc', hmode, hkeeps, horders⟩ := haccepted _ (some .test) _ (writes_draft _ _) hchoice
  have hexpected : KeepsGiven (fun field n => (field, n) ∈ [(backoff, 3), (pollInterval, 250)])
      c.finalization := by
    refine keepsGiven_policy (f := { pollIntervalMs := some 250, backoff := some 3 }) ?_
    intro field n
    cases field <;> simp [PolicyField.valueOf, eq_comm]
  have hc : c' = c := Config.ext hmode (hkeeps.unique hexpected fun _ _ => Iff.rfl)
  rw [hc] at hc' horders
  have hkey : k.EndsAt rest := by
    intro d hd
    cases hd
    decide
  have hends : again.EndsAt table := by
    intro d hd
    cases hd
    decide
  have hfound : HasTable (furtherText (linesBefore [modeLine .live]) .none again.piece table) := by
    intro ss hss
    have hheaders : (sections (furtherText (linesBefore [modeLine .live]) .none again.piece
        table).toList).toOption.map (·.map Section.header) = some [[], [finalizationKey]] := by
      decide +kernel
    rw [hss] at hheaders
    have hmap : ss.map Section.header = [[], [finalizationKey]] := Option.some.inj hheaders
    have hmem : [finalizationKey] ∈ ss.map Section.header := by
      rw [hmap]
      decide
    obtain ⟨s, hs, hheader⟩ := List.mem_map.mp hmem
    exact ⟨s, hs, by rw [hheader, List.head?_cons]⟩
  refine ⟨hc', horders _ _ (writes_draft _ _) (List.Perm.swap _ _ _), ?_, ?_, ?_, ?_, ?_⟩
  · exact hflawed _ (htitle _ _) (.zeroBackoff (by decide))
  · exact hroot _ _ k _ hkey (by decide) (by decide)
  · exact hagain _ _ again _ hends (by decide) hfound
  · exact (htable _ _ _ (htitle _ _)).1 k hkey fun field => by cases field <;> decide
  · exact (htable _ _ _ (htitle _ _)).2

end Document

end Preflight
