import Preflight.Proofs.Config.Document
import Preflight.Proofs.Toml.Parsing

/-!
Which sections are accepted. The pairs of the table `finalization` have to name fields of the
policy, none of them twice, with numbers that fit; before the first header there may be a mode, and
behind the table there is nothing. What is given for the fields tells the policy.
-/

namespace Preflight

namespace Document

open Toml PolicyField

/-! ## 1. Pairs of the table -/

theorem valueOf_set_eq_none_iff {f : PolicyFields} {field other : PolicyField} {n : Nat}
    (hn : (n : Int) < other.width.bound) :
    field.valueOf (other.set f n) = none ↔ field ≠ other ∧ field.valueOf f = none := by
  by_cases h : field = other
  · subst h
    rw [valueOf_set hn]
    simp
  · rw [valueOf_set_of_ne h]
    simp [h]

theorem exists_setPairs_cons_iff {f : PolicyFields} {k : String} {v : Value} {rest : Pairs} :
    (∃ p, setPairs f ((k, v) :: rest) = .ok p) ↔ ∃ (field : PolicyField) (n : Nat),
      k = field.key ∧ field.valueOf f = none ∧ number field.width v = .ok n ∧
        ∃ p, setPairs (field.set f n) rest = .ok p := by
  constructor
  · rintro ⟨p, h⟩
    obtain ⟨f', hset, hrest⟩ := bind_eq_ok_iff.mp h
    obtain ⟨field, n, hk, hunset, hnumber, rfl⟩ := setField_eq_ok_iff.mp hset
    exact ⟨field, n, hk, hunset, hnumber, p, hrest⟩
  · rintro ⟨field, n, hk, hunset, hnumber, p, hrest⟩
    have hset : setField f k (fun w => number w v) = .ok (field.set f n) :=
      setField_eq_ok_iff.mpr ⟨field, n, hk, hunset, hnumber, rfl⟩
    exact ⟨p, bind_eq_ok_iff.mpr ⟨_, hset, hrest⟩⟩

/-- Pairs are accepted behind fields that are set exactly if no key is repeated and each names a
field that is not set, with a number that fits. -/
theorem exists_setPairs_iff {f : PolicyFields} {pairs : Pairs} : (∃ p, setPairs f pairs = .ok p) ↔
    (pairs.map Prod.fst).Nodup ∧ ∀ k v, (k, v) ∈ pairs → ∃ (field : PolicyField) (n : Nat),
      k = field.key ∧ field.valueOf f = none ∧ number field.width v = .ok n := by
  induction pairs generalizing f with
  | nil => exact ⟨fun _ => ⟨List.nodup_nil, fun _ _ h => nomatch h⟩, fun _ => ⟨f, rfl⟩⟩
  | cons pair rest ih =>
    obtain ⟨k, v⟩ := pair
    rw [exists_setPairs_cons_iff, List.map_cons, List.nodup_cons]
    constructor
    · rintro ⟨field, n, rfl, hunset, hnumber, hrest⟩
      obtain ⟨hnodup, hall⟩ := ih.mp hrest
      have hn := (number_eq_ok_iff.mp hnumber).2
      refine ⟨⟨fun hmem => ?_, hnodup⟩, fun k' v' hmem => ?_⟩
      · obtain ⟨⟨_, v'⟩, hv', rfl⟩ := List.mem_map.mp hmem
        obtain ⟨other, _, hkey, hother, -⟩ := hall _ _ hv'
        exact ((valueOf_set_eq_none_iff hn).mp hother).1 (key_injective hkey).symm
      · rcases List.mem_cons.mp hmem with heq | hmem
        · cases heq
          exact ⟨field, n, rfl, hunset, hnumber⟩
        · obtain ⟨other, m, hkey, hother, hm⟩ := hall _ _ hmem
          exact ⟨other, m, hkey, ((valueOf_set_eq_none_iff hn).mp hother).2, hm⟩
    · rintro ⟨⟨hk, hnodup⟩, hall⟩
      obtain ⟨field, n, rfl, hunset, hnumber⟩ := hall k v List.mem_cons_self
      have hn := (number_eq_ok_iff.mp hnumber).2
      refine ⟨field, n, rfl, hunset, hnumber, ih.mpr ⟨hnodup, fun k' v' hmem => ?_⟩⟩
      obtain ⟨other, m, rfl, hother, hm⟩ := hall k' v' (List.mem_cons_of_mem _ hmem)
      have hne : other ≠ field := by
        rintro rfl
        exact hk (List.mem_map.mpr ⟨_, hmem, rfl⟩)
      exact ⟨other, m, rfl, (valueOf_set_eq_none_iff hn).mpr ⟨hne, hother⟩, hm⟩

/-! ## 2. Pairs before the first header -/

-- What is set by a pair stays set.
theorem isSome_finalization_of_setRootPairs {f g : Fields} {pairs : Pairs}
    (h : setRootPairs f pairs = .ok g) (hset : f.finalization.isSome = true) :
    g.finalization.isSome = true := by
  induction pairs generalizing f with
  | nil =>
    cases h
    exact hset
  | cons pair rest ih =>
    obtain ⟨f', hpair, hrest⟩ := bind_eq_ok_iff.mp h
    rcases setRoot_eq_ok hpair with ⟨-, hsame⟩ | ⟨-, hunset, -⟩
    · exact ih hrest (hsame ▸ hset)
    · rw [hunset] at hset
      exact nomatch hset

theorem isSome_finalization_of_mem {f g : Fields} {pairs : Pairs} (h : setRootPairs f pairs = .ok g)
    (hmem : finalizationKey ∈ pairs.map Prod.fst) : g.finalization.isSome = true := by
  induction pairs generalizing f with
  | nil => exact nomatch hmem
  | cons pair rest ih =>
    obtain ⟨f', hpair, hrest⟩ := bind_eq_ok_iff.mp h
    rcases List.mem_cons.mp hmem with hkey | hmem
    · rcases setRoot_eq_ok hpair with ⟨hother, -⟩ | ⟨-, -, p, -, hp⟩
      · exact absurd hkey.symm hother
      · exact isSome_finalization_of_setRootPairs hrest (by rw [hp, Option.isSome_some])
    · exact ih hrest hmem

/-- Before the first header, nothing is known but the mode and the table. -/
theorem mem_keys_of_setRootPairs {f g : Fields} {pairs : Pairs} (h : setRootPairs f pairs = .ok g) :
    ∀ k ∈ pairs.map Prod.fst, k = modeKey ∨ k = finalizationKey := by
  induction pairs generalizing f with
  | nil => exact fun _ hk => nomatch hk
  | cons pair rest ih =>
    obtain ⟨f', hpair, hrest⟩ := bind_eq_ok_iff.mp h
    rw [List.map_cons]
    refine List.forall_mem_cons.mpr ⟨?_, ih hrest⟩
    rcases setRoot_eq_ok_iff.mp hpair with ⟨hk, -⟩ | ⟨hk, -⟩
    · exact .inl hk
    · exact .inr hk

/-- Where the pairs before the first header leave the table to its section, they are a mode or
nothing. -/
theorem setRootPairs_eq_ok_iff {g : Fields} {pairs : Pairs} :
    setRootPairs {} pairs = .ok g ∧ g.finalization = none ↔
      (pairs = [] ∧ g = {}) ∨
        ∃ v m, pairs = [(modeKey, v)] ∧ modeOf v = .ok m ∧ g = { mode := some m } := by
  constructor
  · rintro ⟨h, hnone⟩
    have hlater : ∀ {f : Fields} {rest : Pairs}, setRootPairs f rest = .ok g →
        f.finalization = none := by
      intro f rest hrest
      rw [← Option.not_isSome_iff_eq_none]
      intro hset
      have hsome := isSome_finalization_of_setRootPairs hrest hset
      rw [hnone] at hsome
      exact nomatch hsome
    cases pairs with
    | nil =>
      cases h
      exact .inl ⟨rfl, rfl⟩
    | cons pair rest =>
      obtain ⟨k, v⟩ := pair
      obtain ⟨f, hpair, hrest⟩ := bind_eq_ok_iff.mp h
      rcases setRoot_eq_ok_iff.mp hpair with ⟨rfl, -, m, hm, rfl⟩ | ⟨-, -, p, -, rfl⟩
      · cases rest with
        | nil =>
          cases hrest
          exact .inr ⟨v, m, rfl, hm, rfl⟩
        | cons pair' rest =>
          obtain ⟨f', hpair', hrest'⟩ := bind_eq_ok_iff.mp hrest
          rcases setRoot_eq_ok_iff.mp hpair' with ⟨-, hunset, -⟩ | ⟨-, -, p, -, rfl⟩
          · exact nomatch hunset
          · exact nomatch hlater hrest'
      · exact nomatch hlater hrest
  · rintro (⟨rfl, rfl⟩ | ⟨v, m, rfl, hm, rfl⟩)
    · exact ⟨rfl, rfl⟩
    · have hpair : setRoot {} modeKey (modeOf v) (policyOf v) = .ok { mode := some m } :=
        setRoot_eq_ok_iff.mpr (.inl ⟨rfl, rfl, m, hm, rfl⟩)
      exact ⟨bind_eq_ok_iff.mpr ⟨_, hpair, rfl⟩, rfl⟩

/-! ## 3. Sections -/

variable {offset : Nat} {pairs : Pairs}

theorem policyOfSections_table {p : PolicyFields} :
    policyOfSections ⟨offset, [finalizationKey], false, pairs⟩ [] = .ok p ↔
      setPairs {} pairs = .ok p := by
  show (setSection {} _ >>= fun f => setSections _ f []) = _ ↔ _
  rw [bind_eq_ok_iff]
  constructor
  · rintro ⟨p', hset, h⟩
    cases h
    exact (setSection_eq_ok hset).2
  · exact fun h => ⟨p, setPairs'_eq_ok_iff.mpr h, rfl⟩

theorem setHeaders_table {alone : Bool} {f g : Fields} :
    setHeaders alone [] f [⟨offset, [finalizationKey], false, pairs⟩] = .ok g ↔
      f.finalization = none ∧ ∃ p, setPairs {} pairs = .ok p ∧
        g = { f with finalization := some p } := by
  have hne : finalizationKey ≠ modeKey := by decide
  rw [setHeaders]
  show (setRoot f finalizationKey _ (policyOfSections _ []) >>= _) = _ ↔ _
  rw [bind_eq_ok_iff]
  simp only [setRoot_eq_ok_iff, policyOfSections_table, hne, false_and, false_or, true_and]
  constructor
  · rintro ⟨f', ⟨hunset, p, hp, rfl⟩, h⟩
    cases h
    exact ⟨hunset, p, hp, rfl⟩
  · rintro ⟨hunset, p, hp, rfl⟩
    exact ⟨_, ⟨hunset, p, hp, rfl⟩, rfl⟩

/-- What lines before a table and the table set. -/
theorem fieldsOf_table {g : Fields} {rootOffset : Nat} {root : Pairs} :
    fieldsOf ([⟨rootOffset, [], false, root⟩, ⟨offset, [finalizationKey], false, pairs⟩].filter
      Section.isPresent) = .ok g ↔
      ∃ f p, (setRootPairs {} root = .ok f ∧ f.finalization = none) ∧
        setPairs {} pairs = .ok p ∧ g = { f with finalization := some p } := by
  refine mapError_eq_ok_iff.trans ?_
  let table : Section := ⟨offset, [finalizationKey], false, pairs⟩
  cases root with
  | nil =>
    show setHeaders true [] {} [table] = _ ↔ _
    rw [setHeaders_table]
    constructor
    · rintro ⟨-, p, hp, rfl⟩
      exact ⟨{}, p, ⟨rfl, rfl⟩, hp, rfl⟩
    · rintro ⟨f, p, ⟨h, -⟩, hp, rfl⟩
      cases h
      exact ⟨rfl, p, hp, rfl⟩
  | cons pair root =>
    show (setRootPairs {} (pair :: root) >>= fun f => setHeaders false [] f [table]) = _ ↔ _
    simp only [bind_eq_ok_iff, table, setHeaders_table, and_assoc, exists_and_left]

-- Other sections under the key of the table would be brought along by the first one.
theorem exists_setPairs_of_setHeaders {alone : Bool} {taken : List String} {f g : Fields}
    {ss : List Section} (h : setHeaders alone taken f ss = .ok g) (hnew : finalizationKey ∉ taken) :
    ∀ s ∈ ss, s.header = [finalizationKey] → ∃ p, setPairs {} s.pairs = .ok p := by
  induction ss generalizing taken f with
  | nil => exact fun _ hs => nomatch hs
  | cons s rest ih =>
    rcases setHeaders_cons_eq_ok_iff.mp h with ⟨htaken, h⟩ | ⟨-, f', hset, hrest⟩
    · have hs : s.header ≠ [finalizationKey] := by
        intro hheader
        rw [head_eq_finalization hheader] at htaken
        exact hnew htaken
      exact List.forall_mem_cons.mpr ⟨fun hheader => absurd hheader hs, ih h hnew⟩
    · rcases setRoot_eq_ok_iff.mp hset with ⟨hkey, -⟩ | ⟨hkey, -, p, hpolicy, -⟩
      · have hs : s.header ≠ [finalizationKey] := by
          intro hheader
          rw [head_eq_finalization hheader] at hkey
          exact absurd hkey (by decide)
        have hnew' : finalizationKey ∉ s.header.head?.getD "" :: taken := by
          rw [hkey]
          exact List.not_mem_cons_of_ne_of_not_mem (by decide) hnew
        exact List.forall_mem_cons.mpr ⟨fun hheader => absurd hheader hs, ih hrest hnew'⟩
      · rw [hkey] at hpolicy
        obtain ⟨-, hothers, hpairs⟩ := policyOfSections_eq_ok hpolicy (isUnder_of_head hkey)
          fun s' hs' => (List.mem_filter.mp hs').2
        refine List.forall_mem_cons.mpr ⟨fun _ => ⟨p, hpairs⟩, fun s' hs' hheader' => ?_⟩
        have hmem : s' ∈ rest.filter (isUnder finalizationKey) :=
          List.mem_filter.mpr ⟨hs', isUnder_of_head (head_eq_finalization hheader')⟩
        rw [hothers] at hmem
        exact absurd hmem List.not_mem_nil

-- A table that a pair set is not set again by a section.
theorem head_ne_finalization_of_setHeaders {alone : Bool} {taken : List String} {f g : Fields}
    {ss : List Section} (h : setHeaders alone taken f ss = .ok g)
    (hset : f.finalization.isSome = true) (hnew : finalizationKey ∉ taken) :
    ∀ s ∈ ss, s.header.head? ≠ some finalizationKey := by
  have hhead : ∀ {s : Section}, s.header.head? = some finalizationKey →
      s.header.head?.getD "" = finalizationKey := fun h => by rw [h, Option.getD_some]
  induction ss generalizing taken f with
  | nil =>
    intro s hs
    cases hs
  | cons s rest ih =>
    rcases setHeaders_cons_eq_ok_iff.mp h with ⟨htaken, h⟩ | ⟨-, f', hroot, hrest⟩
    · refine List.forall_mem_cons.mpr ⟨fun hs => ?_, ih h hset hnew⟩
      rw [hhead hs] at htaken
      exact hnew htaken
    · rcases setRoot_eq_ok hroot with ⟨hother, hsame⟩ | ⟨-, hunset, -⟩
      · have hnew' : finalizationKey ∉ s.header.head?.getD "" :: taken :=
          List.not_mem_cons_of_ne_of_not_mem (Ne.symm hother) hnew
        exact List.forall_mem_cons.mpr
          ⟨fun hs => hother (hhead hs), ih hrest (hsame ▸ hset) hnew'⟩
      · rw [hunset] at hset
        cases hset

/-- A document does not give the table twice, as a pair before the first header and as a section. -/
theorem head_ne_finalization_of_fieldsOf {root : Section} {ss : List Section} {g : Fields}
    (h : fieldsOf (root :: ss) = .ok g) (hroot : root.header = [])
    (hmem : finalizationKey ∈ root.pairs.map Prod.fst) :
    ∀ s ∈ ss, s.header.head? ≠ some finalizationKey := by
  rcases fieldsOf_cons_eq_ok h with ⟨-, f, hpairs, hrest⟩ | ⟨hheader, -⟩
  · exact head_ne_finalization_of_setHeaders hrest (isSome_finalization_of_mem hpairs hmem)
      List.not_mem_nil
  · exact absurd hroot hheader

/-- The pairs of each section that an accepted document has for the table are accepted, and so are
those before the first header. -/
theorem exists_pairs_of_fieldsOf {ss : List Section} {g : Fields} (h : fieldsOf ss = .ok g) :
    (∀ s ∈ ss, s.header = [finalizationKey] → ∃ p, setPairs {} s.pairs = .ok p) ∧
      ∀ s ∈ ss.head?, s.header = [] → ∃ f, setRootPairs {} s.pairs = .ok f := by
  cases ss with
  | nil => exact ⟨fun _ hs => (nomatch hs), fun _ hs => nomatch hs⟩
  | cons s rest =>
    rcases fieldsOf_cons_eq_ok h with ⟨hheader, f, hroot, hrest⟩ | ⟨hheader, h⟩
    · refine ⟨List.forall_mem_cons.mpr ⟨fun hfinal => ?_, ?_⟩, fun s' hs' _ => ?_⟩
      · rw [hheader] at hfinal
        exact nomatch hfinal
      · exact exists_setPairs_of_setHeaders hrest List.not_mem_nil
      · cases hs'
        exact ⟨f, hroot⟩
    · refine ⟨exists_setPairs_of_setHeaders h List.not_mem_nil, fun s' hs' hheader' => ?_⟩
      cases hs'
      exact absurd hheader' hheader

-- Another section is under the key of the table, or a mode beside it, or not known.
theorem not_setHeaders_table {f g : Fields} {table s : Section} {more : List Section}
    (htable : table.header = [finalizationKey]) :
    setHeaders false [] f (table :: s :: more) ≠ .ok g := by
  intro h
  have hkey := head_eq_finalization htable
  rcases setHeaders_cons_eq_ok_iff.mp h with ⟨htaken, -⟩ | ⟨-, f', htableSet, hrest⟩
  · exact absurd htaken List.not_mem_nil
  rw [hkey] at htableSet hrest
  have hs : s.header.head?.getD "" ≠ finalizationKey := by
    intro hs
    rcases setRoot_eq_ok_iff.mp htableSet with ⟨hmode, -⟩ | ⟨-, -, p, hpolicy, -⟩
    · exact absurd hmode (by decide)
    · obtain ⟨-, hothers, -⟩ := policyOfSections_eq_ok hpolicy (isUnder_of_head hkey)
        fun s' hs' => (List.mem_filter.mp hs').2
      rw [List.filter_cons_of_pos (isUnder_of_head hs)] at hothers
      exact List.cons_ne_nil _ _ hothers
  rcases setHeaders_cons_eq_ok_iff.mp hrest with ⟨htaken, -⟩ | ⟨-, f'', hset, -⟩
  · exact hs (List.mem_singleton.mp htaken)
  rcases setRoot_eq_ok_iff.mp hset with ⟨-, -, m, hm, -⟩ | ⟨hfinal, -⟩
  · cases hm
  · exact hs hfinal

/-- The table is the last section of an accepted document. -/
theorem not_fieldsOf_table {g : Fields} {root : Option Section} {table s : Section}
    {more : List Section} (hroot : ∀ r ∈ root, r.header = [])
    (htable : table.header = [finalizationKey]) :
    fieldsOf (root.toList ++ table :: s :: more) ≠ .ok g := by
  intro h
  cases root with
  | none =>
    have hlength : ¬(table :: s :: more).length = 1 := by
      simp
    rcases fieldsOf_cons_eq_ok h with ⟨hheader, -⟩ | ⟨-, h⟩
    · rw [htable] at hheader
      cases hheader
    · rw [decide_eq_false hlength] at h
      exact not_setHeaders_table htable h
  | some r =>
    have hlength : ¬(r :: table :: s :: more).length = 1 := by
      simp
    rw [Option.toList_some, List.singleton_append] at h
    rcases fieldsOf_cons_eq_ok h with ⟨-, f, -, hrest⟩ | ⟨hheader, -⟩
    · rw [decide_eq_false hlength] at hrest
      exact not_setHeaders_table htable hrest
    · exact hheader (hroot r rfl)

/-! ## 4. Policies -/

/-- A policy is told by the values of its fields. -/
theorem policy_ext {p q : Policy} (h : ∀ field : PolicyField, field.valueIn p = field.valueIn q) :
    p = q := by
  have hduration : Function.Injective Duration.nanos := fun _ _ => Duration.ext
  have hword : Function.Injective UInt32.toNat := fun _ _ => UInt32.toNat_inj.mp
  ext1
  · exact hduration (Option.some.inj (h .pollInterval))
  · exact hword (Option.some.inj (h .backoff))
  · exact hduration (Option.some.inj (h .maxInterval))
  · exact Option.map_injective hword (h .maxAttempts)
  · exact Option.map_injective hduration (h .timeout)

/-- What is given tells the policy. -/
theorem KeepsGiven.unique {gives gives' : PolicyField → Nat → Prop} {p q : Policy}
    (hp : KeepsGiven gives p) (hq : KeepsGiven gives' q)
    (h : ∀ field n, gives field n ↔ gives' field n) : p = q := by
  refine policy_ext fun field => ?_
  by_cases hgiven : ∃ n, gives field n
  · obtain ⟨n, hn⟩ := hgiven
    rw [(hp field).1 n hn, (hq field).1 n ((h field n).mp hn)]
  · rw [(hp field).2 fun n hn => hgiven ⟨n, hn⟩,
      (hq field).2 fun n hn => hgiven ⟨n, (h field n).mpr hn⟩]

end Document

end Preflight
