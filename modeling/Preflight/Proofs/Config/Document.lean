import Preflight.Document
import Preflight.Proofs.Steps

/-!
What a document gives for the fields of the policy, and what is set by it. An accepted document sets
exactly the numbers that it gives: each is set once, by a pair of the table `finalization` or by an
item of a list in its place, and nothing else sets any.
-/

namespace Preflight

namespace Document

open Toml

/-! ## 1. Fields -/

namespace PolicyField

/-- The number that is set for a field. -/
def valueOf (f : PolicyFields) : PolicyField → Option Nat
  | pollInterval => f.pollIntervalMs.map UInt64.toNat
  | backoff => f.backoff.map UInt32.toNat
  | maxInterval => f.maxIntervalMs.map UInt64.toNat
  | maxAttempts => f.maxAttempts.map UInt32.toNat
  | timeout => f.timeoutMs.map UInt64.toNat

theorem isSet_eq (f : PolicyFields) (field : PolicyField) :
    field.isSet f = (field.valueOf f).isSome := by
  cases field <;> simp [isSet, valueOf]

theorem valueOf_set {f : PolicyFields} {field : PolicyField} {n : Nat}
    (h : (n : Int) < field.width.bound) : field.valueOf (field.set f n) = some n := by
  have h64 : ∀ {m : Nat}, (m : Int) < Width.bits64.bound → (UInt64.ofNat m).toNat = m := by
    intro m hm
    exact UInt64.toNat_ofNat_of_lt' (Int.ofNat_lt.mp hm)
  have h32 : ∀ {m : Nat}, (m : Int) < Width.bits32.bound → (UInt32.ofNat m).toNat = m := by
    intro m hm
    exact UInt32.toNat_ofNat_of_lt' (Int.ofNat_lt.mp hm)
  cases field with
  | pollInterval => exact congrArg some (h64 h)
  | backoff => exact congrArg some (h32 h)
  | maxInterval => exact congrArg some (h64 h)
  | maxAttempts => exact congrArg some (h32 h)
  | timeout => exact congrArg some (h64 h)

theorem valueOf_set_of_ne {f : PolicyFields} {field other : PolicyField} (h : field ≠ other)
    (n : Nat) : field.valueOf (other.set f n) = field.valueOf f := by
  cases other <;> cases field <;> first | rfl | exact absurd rfl h

theorem key_injective {a b : PolicyField} (h : a.key = b.key) : a = b := by
  revert a b
  have hkeys : ∀ a ∈ all, ∀ b ∈ all, a.key = b.key → a = b := by decide
  intro a b h
  exact hkeys a (by cases a <;> decide) b (by cases b <;> decide) h

theorem ofKey?_eq_some_iff {k : String} {field : PolicyField} :
    ofKey? k = some field ↔ k = field.key := by
  constructor
  · intro h
    have hkey := List.find?_some h
    exact (beq_iff_eq.mp hkey).symm
  · rintro rfl
    cases field <;> decide

end PolicyField

open PolicyField

theorem valueOf_empty (field : PolicyField) : field.valueOf {} = none := by
  cases field <;> rfl

-- a field that is set for the first time
theorem valueOf_set_eq_some_iff {f : PolicyFields} {field other : PolicyField} {m n : Nat}
    (hunset : other.valueOf f = none) (hm : (m : Int) < other.width.bound) :
    field.valueOf (other.set f m) = some n ↔
      field.valueOf f = some n ∨ (field = other ∧ n = m) := by
  by_cases h : field = other
  · subst h
    rw [valueOf_set hm, hunset]
    simp [eq_comm]
  · rw [valueOf_set_of_ne h]
    simp [h]

/-! ## 2. Pairs and items -/

theorem number_eq_ok_iff {w : Width} {v : Value} {n : Nat} :
    number w v = .ok n ↔ (∃ offset, v = .integer offset n) ∧ (n : Int) < w.bound := by
  constructor
  · intro h
    cases v with
    | integer offset m =>
      rw [number] at h
      split at h
      case isTrue hfits =>
        cases h
        obtain ⟨hpos, hlt⟩ := Bool.and_eq_true_iff.mp hfits
        have hpos : 0 ≤ m := of_decide_eq_true hpos
        have hlt : m < w.bound := of_decide_eq_true hlt
        exact ⟨⟨offset, by rw [Int.toNat_of_nonneg hpos]⟩, by rwa [Int.toNat_of_nonneg hpos]⟩
      case isFalse => exact nomatch h
    | _ => exact nomatch h
  · rintro ⟨⟨offset, rfl⟩, hlt⟩
    rw [number, if_pos]
    · rfl
    · exact Bool.and_eq_true_iff.mpr
        ⟨decide_eq_true (Int.natCast_nonneg n), decide_eq_true hlt⟩

theorem setField_eq_ok_iff {f g : PolicyFields} {k : String}
    {value : Width → Except Toml.Fault Nat} :
    setField f k value = .ok g ↔ ∃ (field : PolicyField) (n : Nat), k = field.key ∧
      field.valueOf f = none ∧ value field.width = .ok n ∧ g = field.set f n := by
  constructor
  · intro h
    rw [setField] at h
    cases hk : ofKey? k with
    | none => rw [hk] at h; exact nomatch h
    | some field =>
      rw [hk] at h
      dsimp only at h
      split at h
      case isTrue => exact nomatch h
      case isFalse hset =>
        obtain ⟨n, hn, h⟩ := bind_eq_ok_iff.mp h
        cases h
        rw [isSet_eq, Option.not_isSome_iff_eq_none] at hset
        exact ⟨field, n, ofKey?_eq_some_iff.mp hk, hset, hn, rfl⟩
  · rintro ⟨field, n, rfl, hunset, hn, rfl⟩
    have hset : ¬field.isSet f = true := by
      rw [isSet_eq, hunset]
      decide
    rw [setField, ofKey?_eq_some_iff.mpr rfl]
    dsimp only
    rw [if_neg hset, hn]
    rfl

/-- The pairs give the number for a field. -/
def PairsGive (pairs : Pairs) (field : PolicyField) (n : Nat) : Prop :=
  ∃ offset, (field.key, Value.integer offset n) ∈ pairs

-- A key that is set already is refused, so each pair adds its own number and changes no other.
theorem valueOf_setPairs {f g : PolicyFields} {pairs : Pairs} (h : setPairs f pairs = .ok g)
    (field : PolicyField) (n : Nat) :
    field.valueOf g = some n ↔ field.valueOf f = some n ∨ PairsGive pairs field n := by
  induction pairs generalizing f with
  | nil =>
    cases h
    simp [PairsGive]
  | cons pair rest ih =>
    obtain ⟨k, v⟩ := pair
    obtain ⟨f', hset, hrest⟩ := bind_eq_ok_iff.mp h
    obtain ⟨other, m, rfl, hunset, hnumber, rfl⟩ := setField_eq_ok_iff.mp hset
    obtain ⟨⟨offset, rfl⟩, hm⟩ := number_eq_ok_iff.mp hnumber
    rw [ih hrest, valueOf_set_eq_some_iff hunset hm, or_assoc]
    refine or_congr_right ?_
    simp only [PairsGive, List.mem_cons, exists_or, Prod.mk.injEq, Value.integer.injEq]
    refine or_congr_left ?_
    constructor
    · rintro ⟨rfl, rfl⟩
      exact ⟨offset, rfl, rfl, rfl⟩
    · rintro ⟨_, hkey, -, hn⟩
      exact ⟨key_injective hkey, Int.ofNat_inj.mp hn⟩

theorem valueOf_setItems {f g : PolicyFields} {count : Nat} {fields : List PolicyField}
    {items : List Value} (h : setItems f count fields items = .ok g) (hfields : fields.Nodup)
    (hunset : ∀ field ∈ fields, field.valueOf f = none) (field : PolicyField) (n : Nat) :
    field.valueOf g = some n ↔ field.valueOf f = some n ∨
      ∃ offset, (field, Value.integer offset n) ∈ fields.zip items := by
  induction fields generalizing f count items with
  | nil =>
    cases items with
    | nil => cases h; simp
    | cons v rest => exact nomatch h
  | cons other fields ih =>
    cases items with
    | nil => exact nomatch h
    | cons v rest =>
      obtain ⟨m, hnumber, hrest⟩ := bind_eq_ok_iff.mp h
      obtain ⟨⟨offset, rfl⟩, hm⟩ := number_eq_ok_iff.mp hnumber
      obtain ⟨hother, hnodup⟩ := List.nodup_cons.mp hfields
      have hunset' : ∀ field ∈ fields, field.valueOf (other.set f m) = none := by
        intro field hfield
        have hne : field ≠ other := fun he => hother (he ▸ hfield)
        rw [valueOf_set_of_ne hne]
        exact hunset field (List.mem_cons_of_mem _ hfield)
      rw [ih hrest hnodup hunset', valueOf_set_eq_some_iff (hunset other List.mem_cons_self) hm,
        or_assoc]
      refine or_congr_right ?_
      simp only [List.zip_cons_cons, List.mem_cons, exists_or, Prod.mk.injEq, Value.integer.injEq]
      refine or_congr_left ?_
      constructor
      · rintro ⟨rfl, rfl⟩
        exact ⟨offset, rfl, rfl, rfl⟩
      · rintro ⟨_, rfl, -, hn⟩
        exact ⟨rfl, Int.ofNat_inj.mp hn⟩

/-! ## 3. Values and sections -/

/-- A value gives the number for a field: a table by the key of the field, a list by its place. -/
inductive ValueGives (field : PolicyField) (n : Nat) : Value → Prop
  | inline {offset : Nat} {pairs : Pairs} (h : PairsGive pairs field n) :
    ValueGives field n (.inlineTable offset pairs)
  | dotted {offset : Nat} {pairs : Pairs} (h : PairsGive pairs field n) :
    ValueGives field n (.dottedTable offset pairs)
  | listed {offset place : Nat} {items : List Value}
      (h : (field, Value.integer place n) ∈ PolicyField.all.zip items) :
    ValueGives field n (.array offset items)

theorem valueOf_policyOf {v : Value} {p : PolicyFields} (h : policyOf v = .ok p)
    (field : PolicyField) (n : Nat) : field.valueOf p = some n ↔ ValueGives field n v := by
  have hempty : field.valueOf {} ≠ some n := by simp [valueOf_empty]
  cases v with
  | inlineTable offset pairs =>
    rw [valueOf_setPairs (mapError_eq_ok_iff.mp h), or_iff_right hempty]
    exact ⟨.inline, fun hgives => by cases hgives; assumption⟩
  | dottedTable offset pairs =>
    rw [valueOf_setPairs (mapError_eq_ok_iff.mp h), or_iff_right hempty]
    exact ⟨.dotted, fun hgives => by cases hgives; assumption⟩
  | array offset items =>
    rw [valueOf_setItems h (by decide) (fun field _ => valueOf_empty field), or_iff_right hempty]
    exact ⟨fun ⟨place, hplace⟩ => .listed hplace,
      fun hgives => by cases hgives; exact ⟨_, by assumption⟩⟩
  | _ => exact nomatch h

-- Pairs of a section set what pairs of a value set, and differ from them in their faults only.
theorem setPairs'_eq_ok_iff {f g : PolicyFields} {pairs : Pairs} :
    setSection.setPairs' f pairs = .ok g ↔ setPairs f pairs = .ok g := by
  induction pairs generalizing f with
  | nil => rfl
  | cons pair rest ih =>
    obtain ⟨k, v⟩ := pair
    rw [setSection.setPairs', setPairs]
    simp only [bind_eq_ok_iff, setField_eq_ok_iff, mapError_eq_ok_iff, ih]

theorem setSection_eq_ok {f g : PolicyFields} {s : Section} (h : setSection f s = .ok g) :
    s.header.drop 1 = [] ∧ setPairs f s.pairs = .ok g := by
  rw [setSection] at h
  split at h
  case h_1 hheader => exact ⟨hheader, setPairs'_eq_ok_iff.mp h⟩
  case h_2 k deeper _ =>
    obtain ⟨_, _, _, _, hvalue, _⟩ := setField_eq_ok_iff.mp h
    exact nomatch hvalue

theorem header_eq_of_drop {header : List String} {key : String} (hhead : header.head? = some key)
    (hdrop : header.drop 1 = []) : header = [key] := by
  cases header with
  | nil => exact nomatch hhead
  | cons k rest =>
    cases hhead
    rw [show rest = [] from hdrop]

/-- Sections under one key are a policy only if there is a single one with nothing but the key in
its header. -/
theorem policyOfSections_eq_ok {first : Section} {others : List Section} {p : PolicyFields}
    {key : String} (h : policyOfSections first others = .ok p) (hfirst : isUnder key first = true)
    (hothers : ∀ s ∈ others, isUnder key s = true) :
    first.header = [key] ∧ others = [] ∧ setPairs {} first.pairs = .ok p := by
  rw [policyOfSections] at h
  split at h
  case isTrue => exact nomatch h
  case isFalse =>
    obtain ⟨f, hset, hrest⟩ := bind_eq_ok_iff.mp h
    obtain ⟨hdrop, hpairs⟩ := setSection_eq_ok hset
    have hheader := header_eq_of_drop (beq_iff_eq.mp hfirst) hdrop
    cases others with
    | nil =>
      cases hrest
      exact ⟨hheader, rfl, hpairs⟩
    | cons s rest =>
      rw [setSections] at hrest
      split at hrest
      case isTrue => exact nomatch hrest
      case isFalse hdifferent =>
        obtain ⟨f', hset', -⟩ := bind_eq_ok_iff.mp hrest
        have hs := beq_iff_eq.mp (hothers s List.mem_cons_self)
        have hrepeated := header_eq_of_drop hs (setSection_eq_ok hset').1
        exact absurd (hrepeated.trans hheader.symm) hdifferent

/-! ## 4. Documents -/

/-- The number that is set for a field of the policy by a document. -/
def Fields.valueOf (f : Fields) (field : PolicyField) : Option Nat :=
  field.valueOf (f.finalization.getD {})

/-- Each of the two things that a document can set is set once. -/
theorem setRoot_eq_ok_iff {f g : Fields} {k : String} {mode : Except Toml.Fault Mode}
    {policy : Except Toml.Fault PolicyFields} : setRoot f k mode policy = .ok g ↔
      (k = modeKey ∧ f.mode = none ∧ ∃ m, mode = .ok m ∧ g = { f with mode := some m }) ∨
        (k = finalizationKey ∧ f.finalization = none ∧
          ∃ p, policy = .ok p ∧ g = { f with finalization := some p }) := by
  constructor
  · intro h
    rw [setRoot] at h
    split at h
    case isTrue hk =>
      split at h
      case isTrue => exact nomatch h
      case isFalse hunset =>
        obtain ⟨m, hm, h⟩ := bind_eq_ok_iff.mp h
        cases h
        exact .inl ⟨hk, Option.not_isSome_iff_eq_none.mp hunset, m, mapError_eq_ok_iff.mp hm, rfl⟩
    split at h
    case isTrue hk =>
      split at h
      case isTrue => exact nomatch h
      case isFalse hunset =>
        obtain ⟨p, hp, h⟩ := bind_eq_ok_iff.mp h
        cases h
        exact .inr ⟨hk, Option.not_isSome_iff_eq_none.mp hunset, p, mapError_eq_ok_iff.mp hp, rfl⟩
    case isFalse => exact nomatch h
  · rintro (⟨rfl, hunset, m, rfl, rfl⟩ | ⟨rfl, hunset, p, rfl, rfl⟩)
    · rw [setRoot, if_pos rfl, hunset]
      rfl
    · rw [setRoot, if_neg (by decide), if_pos rfl, hunset]
      rfl

theorem setRoot_eq_ok {f g : Fields} {k : String} {mode : Except Toml.Fault Mode}
    {policy : Except Toml.Fault PolicyFields} (h : setRoot f k mode policy = .ok g) :
    (k ≠ finalizationKey ∧ g.finalization = f.finalization) ∨
      (k = finalizationKey ∧ f.finalization = none ∧
        ∃ p, policy = .ok p ∧ g.finalization = some p) := by
  rcases setRoot_eq_ok_iff.mp h with ⟨hk, -, m, -, rfl⟩ | ⟨hk, hunset, p, hp, rfl⟩
  · exact .inl ⟨by rw [hk]; decide, rfl⟩
  · exact .inr ⟨hk, hunset, p, hp, rfl⟩

theorem valueOf_setRootPairs {f g : Fields} {pairs : Pairs} (h : setRootPairs f pairs = .ok g)
    (field : PolicyField) (n : Nat) : g.valueOf field = some n ↔ f.valueOf field = some n ∨
      ∃ v, (finalizationKey, v) ∈ pairs ∧ ValueGives field n v := by
  induction pairs generalizing f with
  | nil =>
    cases h
    simp
  | cons pair rest ih =>
    obtain ⟨k, v⟩ := pair
    obtain ⟨f', hset, hrest⟩ := bind_eq_ok_iff.mp h
    rw [ih hrest]
    rcases setRoot_eq_ok hset with ⟨hk, hsame⟩ | ⟨rfl, hunset, p, hpolicy, hp⟩
    · rw [Fields.valueOf, hsame, ← Fields.valueOf]
      simp [Ne.symm hk]
    · rw [Fields.valueOf, hp, Fields.valueOf, hunset, Option.getD_some, Option.getD_none,
        valueOf_empty, valueOf_policyOf hpolicy]
      simp

theorem head_eq_finalization {s : Section} (h : s.header = [finalizationKey]) :
    s.header.head?.getD "" = finalizationKey := by
  rw [h]
  rfl

theorem isUnder_of_head {s : Section} (h : s.header.head?.getD "" = finalizationKey) :
    isUnder finalizationKey s = true := by
  rw [isUnder, beq_iff_eq]
  cases hhead : s.header.head? with
  | none => rw [hhead] at h; exact absurd h (by decide)
  | some key => rw [hhead] at h; exact congrArg some h

/-- The first section under the key of the table is the only one behind its header. -/
theorem valueOf_policyOfSections {s : Section} {rest : List Section} {p : PolicyFields}
    (h : policyOfSections s (rest.filter (isUnder finalizationKey)) = .ok p)
    (hs : isUnder finalizationKey s = true) (field : PolicyField) (n : Nat) :
    field.valueOf p = some n ↔
      ∃ s' ∈ s :: rest, s'.header = [finalizationKey] ∧ PairsGive s'.pairs field n := by
  obtain ⟨hheader, hothers, hpairs⟩ := policyOfSections_eq_ok h hs
    fun s' hs' => (List.mem_filter.mp hs').2
  have hrest : ∀ s' ∈ rest, s'.header ≠ [finalizationKey] := by
    intro s' hs' hheader'
    have hmem : s' ∈ rest.filter (isUnder finalizationKey) :=
      List.mem_filter.mpr ⟨hs', isUnder_of_head (head_eq_finalization hheader')⟩
    rw [hothers] at hmem
    exact List.not_mem_nil hmem
  rw [valueOf_setPairs hpairs, valueOf_empty]
  constructor
  · rintro (hnone | hgives)
    · exact nomatch hnone
    · exact ⟨s, List.mem_cons_self, hheader, hgives⟩
  · rintro ⟨s', hs', hheader', hgives⟩
    rcases List.mem_cons.mp hs' with rfl | hs'
    · exact .inr hgives
    · exact absurd hheader' (hrest s' hs')

/-- What a section with a header does: nothing if its key was taken, and otherwise it sets what the
sections under its key say. -/
theorem setHeaders_cons_eq_ok_iff {alone : Bool} {taken : List String} {f g : Fields} {s : Section}
    {rest : List Section} : setHeaders alone taken f (s :: rest) = .ok g ↔
      (s.header.head?.getD "" ∈ taken ∧ setHeaders alone taken f rest = .ok g) ∨
      (s.header.head?.getD "" ∉ taken ∧ ∃ f',
        setRoot f (s.header.head?.getD "") (modeOfSection alone s)
          (policyOfSections s (rest.filter (isUnder (s.header.head?.getD "")))) = .ok f' ∧
        setHeaders alone (s.header.head?.getD "" :: taken) f' rest = .ok g) := by
  rw [setHeaders]
  dsimp only
  by_cases htaken : s.header.head?.getD "" ∈ taken
  · rw [if_pos (List.contains_iff_mem.mpr htaken)]
    simp only [htaken, true_and, not_true_eq_false, false_and, or_false]
  · rw [if_neg (fun hcontains => htaken (List.contains_iff_mem.mp hcontains)), bind_eq_ok_iff]
    simp only [htaken, false_and, false_or, not_false_eq_true, true_and]

/-- What the sections of an accepted document set: first the pairs before the first header, if there
are any, and then the sections with headers. -/
theorem fieldsOf_cons_eq_ok {s : Section} {rest : List Section} {g : Fields}
    (h : fieldsOf (s :: rest) = .ok g) :
    (s.header = [] ∧ ∃ f, setRootPairs {} s.pairs = .ok f ∧
      setHeaders ((s :: rest).length = 1) [] f rest = .ok g) ∨
    (s.header ≠ [] ∧ setHeaders ((s :: rest).length = 1) [] {} (s :: rest) = .ok g) := by
  have h := mapError_eq_ok_iff.mp h
  dsimp only at h
  by_cases hheader : s.header = []
  · rw [if_pos (List.isEmpty_iff.mpr hheader)] at h
    exact .inl ⟨hheader, bind_eq_ok_iff.mp h⟩
  · rw [if_neg (fun hempty => hheader (List.isEmpty_iff.mp hempty))] at h
    exact .inr ⟨hheader, h⟩

-- `taken` holds the key of each section that was set already, with all others under this key.
theorem valueOf_setHeaders {alone : Bool} {taken : List String} {f g : Fields} {ss : List Section}
    (h : setHeaders alone taken f ss = .ok g) (field : PolicyField) (n : Nat) :
    g.valueOf field = some n ↔ f.valueOf field = some n ∨ (finalizationKey ∉ taken ∧
      ∃ s ∈ ss, s.header = [finalizationKey] ∧ PairsGive s.pairs field n) := by
  induction ss generalizing taken f with
  | nil =>
    cases h
    simp
  | cons s rest ih =>
    rcases setHeaders_cons_eq_ok_iff.mp h with ⟨htaken, h⟩ | ⟨hnew, f', hset, hrest⟩
    · -- nothing is under the key of the table unless the table was set already
      rw [ih h]
      refine or_congr_right (and_congr_right fun hnew => ?_)
      have hs : s.header ≠ [finalizationKey] := by
        intro hheader
        rw [head_eq_finalization hheader] at htaken
        exact hnew htaken
      simp [hs]
    · rw [ih hrest]
      rcases setRoot_eq_ok hset with ⟨hkey, hsame⟩ | ⟨hkey, hunset, p, hpolicy, hp⟩
      · have hs : s.header ≠ [finalizationKey] := fun hheader =>
          hkey (head_eq_finalization hheader)
        rw [Fields.valueOf, hsame, ← Fields.valueOf]
        simp [hs, Ne.symm hkey]
      · rw [hkey] at hpolicy hnew
        rw [Fields.valueOf, hp, Fields.valueOf, hunset, Option.getD_some, Option.getD_none,
          valueOf_policyOfSections hpolicy (isUnder_of_head hkey), valueOf_empty, hkey]
        simp [hnew]

/-- The number for a field of the policy stands in a document: in the value of a pair before the
first header, or in a pair of the section behind the header. -/
inductive Gives (ss : List Section) (field : PolicyField) (n : Nat) : Prop
  | root {s : Section} {v : Value} (hs : ss.head? = some s) (hheader : s.header = [])
      (hv : (finalizationKey, v) ∈ s.pairs) (h : ValueGives field n v)
  | table {s : Section} (hs : s ∈ ss) (hheader : s.header = [finalizationKey])
      (h : PairsGive s.pairs field n)

/-- An accepted document sets the numbers that stand in it, and no others. -/
theorem valueOf_fieldsOf {ss : List Section} {f : Fields} (h : fieldsOf ss = .ok f)
    (field : PolicyField) (n : Nat) : f.valueOf field = some n ↔ Gives ss field n := by
  have hempty : ({} : Fields).valueOf field ≠ some n := by
    simp [Fields.valueOf, valueOf_empty]
  cases ss with
  | nil =>
    cases h
    refine ⟨fun h => absurd h hempty, fun h => ?_⟩
    cases h with
    | root hs => exact nomatch hs
    | table hs => exact nomatch hs
  | cons s rest =>
    rcases fieldsOf_cons_eq_ok h with ⟨hheader, f', hroot, hrest⟩ | ⟨hheader, h⟩
    · rw [valueOf_setHeaders hrest, valueOf_setRootPairs hroot, or_iff_right hempty]
      constructor
      · rintro (⟨v, hv, hgives⟩ | ⟨-, s', hs', hheader', hgives⟩)
        · exact .root rfl hheader hv hgives
        · exact .table (List.mem_cons_of_mem _ hs') hheader' hgives
      · intro hgives
        cases hgives with
        | root hs _ hv hgives =>
          cases hs
          exact .inl ⟨_, hv, hgives⟩
        | table hs hheader' hgives =>
          rcases List.mem_cons.mp hs with rfl | hs
          · rw [hheader] at hheader'
            exact nomatch hheader'
          · exact .inr ⟨List.not_mem_nil, _, hs, hheader', hgives⟩
    · rw [valueOf_setHeaders h, or_iff_right hempty]
      constructor
      · rintro ⟨-, s', hs', hheader', hgives⟩
        exact .table hs' hheader' hgives
      · intro hgives
        cases hgives with
        | root hs hheader' =>
          cases hs
          exact absurd hheader' hheader
        | table hs hheader' hgives => exact ⟨List.not_mem_nil, _, hs, hheader', hgives⟩

/-! ## 5. Policies -/

namespace PolicyField

/-- What a unit of the number for a field is worth in a policy: times are given in milliseconds and
kept in nanoseconds. -/
def worth : PolicyField → Nat
  | pollInterval => nanosPerMilli
  | backoff => 1
  | maxInterval => nanosPerMilli
  | maxAttempts => 1
  | timeout => nanosPerMilli

/-- The value of a field in a policy, times in nanoseconds. -/
def valueIn (p : Policy) : PolicyField → Option Nat
  | pollInterval => some p.pollInterval.nanos
  | backoff => some p.backoff.toNat
  | maxInterval => some p.maxInterval.nanos
  | maxAttempts => p.maxAttempts.map UInt32.toNat
  | timeout => p.timeout.map Duration.nanos

end PolicyField

/-- Each field of the policy has exactly the value that is given for it, and its standard value if
none is given. -/
def KeepsGiven (gives : PolicyField → Nat → Prop) (p : Policy) : Prop :=
  ∀ field, (∀ n, gives field n → field.valueIn p = some (n * field.worth)) ∧
    ((∀ n, ¬gives field n) → field.valueIn p = field.valueIn .standard)

theorem valueIn_policy (f : PolicyFields) (field : PolicyField) :
    field.valueIn f.policy =
      match field.valueOf f with
      | some n => some (n * field.worth)
      | none => field.valueIn .standard := by
  cases field <;> simp only [valueIn, valueOf, worth, PolicyFields.policy]
  · cases f.pollIntervalMs <;> simp
  · cases f.backoff <;> simp
  · cases f.maxIntervalMs <;> simp
  · cases f.maxAttempts <;> simp
  · cases f.timeoutMs <;> simp

theorem keepsGiven_policy {gives : PolicyField → Nat → Prop} {f : PolicyFields}
    (h : ∀ field n, field.valueOf f = some n ↔ gives field n) : KeepsGiven gives f.policy := by
  intro field
  rw [valueIn_policy]
  constructor
  · intro n hgives
    rw [(h field n).mpr hgives]
  · intro hnone
    cases hvalue : field.valueOf f with
    | none => rfl
    | some n => exact absurd ((h field n).mp hvalue) (hnone n)

/-! ## 6. Configurations -/

theorem Fields.config_eq_ok_iff {f : Fields} {c : Config} : f.config = .ok c ↔
    (f.finalization.getD {}).policy.backoff ≠ 0 ∧
      c = ⟨f.mode.getD .live, (f.finalization.getD {}).policy⟩ := by
  rw [Fields.config]
  split
  case isTrue hzero => exact ⟨fun h => (nomatch h), fun h => absurd hzero h.1⟩
  case isFalse hne =>
    rw [Except.ok.injEq, and_iff_right hne]
    exact eq_comm

end Document

namespace Config

/-- A document is accepted exactly if its sections can be read and set fields with a backoff that is
not zero. -/
theorem ofDocument_eq_ok_iff {document : String} {c : Config} : ofDocument document = .ok c ↔
    ∃ ss f, Toml.sections document.toList = .ok ss ∧ Document.fieldsOf ss = .ok f ∧
      (f.finalization.getD {}).policy.backoff ≠ 0 ∧
        c = ⟨f.mode.getD .live, (f.finalization.getD {}).policy⟩ := by
  have hread : ∀ f, Document.read document.toList = .ok f ↔
      ∃ ss, Toml.sections document.toList = .ok ss ∧ Document.fieldsOf ss = .ok f :=
    fun f => bind_eq_ok_iff
  simp only [← Document.Fields.config_eq_ok_iff]
  rw [ofDocument]
  cases hok : Document.read document.toList with
  | error e =>
    refine ⟨fun h => (nomatch h), fun ⟨ss, f, hss, hf, _⟩ => ?_⟩
    exact nomatch hok.symm.trans ((hread f).mpr ⟨ss, hss, hf⟩)
  | ok f =>
    constructor
    · intro h
      obtain ⟨ss, hss, hf⟩ := (hread f).mp hok
      exact ⟨ss, f, hss, hf, h⟩
    · rintro ⟨ss, f', hss, hf', h⟩
      cases hok.symm.trans ((hread f').mpr ⟨ss, hss, hf'⟩)
      exact h

/-- A document that is not accepted is refused as no configuration. -/
theorem ofDocument_eq_error {document : String} (h : ∀ c, ofDocument document ≠ .ok c) :
    ∃ detail, ofDocument document = .error (.config detail) := by
  rw [ofDocument] at h ⊢
  cases hok : Document.read document.toList with
  | error e => exact ⟨_, rfl⟩
  | ok f =>
    rw [hok] at h
    dsimp only at h ⊢
    rw [Document.Fields.config] at h ⊢
    split
    case isTrue => exact ⟨_, rfl⟩
    case isFalse hne => exact absurd (if_neg hne) (h _)

end Config

end Preflight
