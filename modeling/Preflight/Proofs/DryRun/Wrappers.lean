import Preflight.Proofs.DryRun.Rendered

/-!
Success wrappers, by what they enclose. A text is an error in any number of wrappers, with blanks
inside and outside of each, exactly if that error is found in it. A round of the search takes off one
wrapper, which is four characters at least, so the search ends on every text.
-/

namespace Preflight.DryRun

open Text

/-! ## 1. Wrappers and rounds -/

/-- The text is a core in so many success wrappers, with blanks around the core and each wrapper. -/
inductive Wraps (core : String) : Nat → String → Prop
  | bare {before after : String} (hbefore : AllBlank before.toList)
      (hafter : AllBlank after.toList) : Wraps core 0 (before ++ core ++ after)
  | wrapped {k : Nat} {before inner after : String} (h : Wraps core k inner)
      (hbefore : AllBlank before.toList) (hafter : AllBlank after.toList) :
    Wraps core (k + 1) (before ++ ("Ok(" ++ inner ++ ")") ++ after)

/-- So many rounds, each of which takes off a wrapper and the blanks inside it, lead from one text to
the other. -/
inductive Rounds : Nat → List Char → List Char → Prop
  | done {cs : List Char} : Rounds 0 cs cs
  | round {n : Nat} {cs inner rest : List Char} (h : unwrap? cs = some inner)
      (hrest : Rounds n (trim inner) rest) : Rounds (n + 1) cs rest

theorem unwrap?_eq_some_iff {cs inner : List Char} :
    unwrap? cs = some inner ↔ cs = 'O' :: 'k' :: '(' :: (inner ++ [')']) := by
  constructor
  · intro h
    fun_cases unwrap? cs
    case case1 r hlast =>
      rw [unwrap?, if_pos hlast] at h
      rw [← Option.some.inj h, List.dropLast_append_getLast? ')' hlast]
    case case2 r hlast =>
      rw [unwrap?, if_neg hlast] at h
      cases h
    case case3 hother =>
      rw [unwrap?] at h
      · cases h
      · exact hother
  · rintro rfl
    rw [unwrap?, if_pos List.getLast?_concat, List.dropLast_concat]

theorem unwrap?_wrapped (inner : List Char) :
    unwrap? ('O' :: 'k' :: '(' :: (inner ++ [')'])) = some inner :=
  unwrap?_eq_some_iff.mpr rfl

theorem innermost_of_unwrap? {cs inner : List Char} (h : unwrap? cs = some inner) :
    innermost cs = innermost (trim inner) := by
  rw [innermost, h]

theorem innermost_of_not_wrapped {cs : List Char} (h : unwrap? cs = none) : innermost cs = cs := by
  rw [innermost, h]

theorem unwrap?_innermost (cs : List Char) : unwrap? (innermost cs) = none := by
  induction cs using innermost.induct with
  | case1 cs hunwrap => rw [innermost_of_not_wrapped hunwrap, hunwrap]
  | case2 cs inner hunwrap ih => rw [innermost_of_unwrap? hunwrap, ih]

theorem exists_rounds (cs : List Char) :
    ∃ n, Rounds n cs (innermost cs) ∧ 4 * n ≤ cs.length := by
  induction cs using innermost.induct with
  | case1 cs hunwrap =>
    rw [innermost_of_not_wrapped hunwrap]
    exact ⟨0, .done, Nat.zero_le _⟩
  | case2 cs inner hunwrap ih =>
    rcases ih with ⟨n, hrounds, hn⟩
    rw [innermost_of_unwrap? hunwrap]
    refine ⟨n + 1, .round hunwrap hrounds, ?_⟩
    have htrim := length_trim_le inner
    rw [unwrap?_eq_some_iff.mp hunwrap]
    simp only [List.length_cons, List.length_append, List.length_nil]
    omega

/-- What rounds lead to is enclosed in as many wrappers. -/
theorem Rounds.wraps {n : Nat} {cs rest : List Char} (h : Rounds n cs rest) {s : String}
    (hs : trim s.toList = cs) : Wraps (String.ofList rest) n s := by
  induction h generalizing s with
  | @done cs =>
    rcases exists_trim s.toList with ⟨before, after, hbefore, hafter, hsplit⟩
    have hs' : s = String.ofList before ++ String.ofList cs ++ String.ofList after := by
      rw [← String.toList_inj]
      simpa [hs] using hsplit
    rw [hs']
    exact .bare (by simpa using hbefore) (by simpa using hafter)
  | @round n cs inner rest hunwrap hrest ih =>
    rcases exists_trim s.toList with ⟨before, after, hbefore, hafter, hsplit⟩
    have hs' : s =
        String.ofList before ++ ("Ok(" ++ String.ofList inner ++ ")") ++ String.ofList after := by
      rw [← String.toList_inj, hsplit, hs, unwrap?_eq_some_iff.mp hunwrap]
      simp
    rw [hs']
    exact .wrapped (ih (by simp)) (by simpa using hbefore) (by simpa using hafter)

/-! ## 2. What the search finds -/

theorem isError_iff {s : String} : isError s.toList = true ↔ ∃ rest, s = "Err(" ++ rest := by
  constructor
  · intro h
    unfold isError at h
    split at h
    case h_1 rest hs => exact ⟨String.ofList rest, by rw [← String.toList_inj, hs]; simp⟩
    case h_2 => cases h
  · rintro ⟨rest, rfl⟩
    simp [isError]

theorem unwrap?_of_isError {cs : List Char} (h : isError cs = true) : unwrap? cs = none := by
  unfold isError at h
  split at h
  · rfl
  · cases h

/-- Blanks around a text do not matter. -/
theorem renderedError_pad {before after : String} (x : String) (hbefore : AllBlank before.toList)
    (hafter : AllBlank after.toList) :
    renderedError (before ++ x ++ after) = renderedError x := by
  have htrim : trim (before ++ x ++ after).toList = trim x.toList := by
    rw [String.toList_append, String.toList_append, trim_append_of_allBlank hbefore hafter]
  rw [renderedError, renderedError, htrim]

theorem isTrimmed_wrapped (inner : List Char) :
    IsTrimmed ('O' :: 'k' :: '(' :: (inner ++ [')'])) where
  head := by
    intro c hc
    cases hc
    decide
  last := by
    show ∀ c ∈ ('O' :: 'k' :: '(' :: inner ++ [')']).getLast?, isBlank c = false
    rw [List.getLast?_concat]
    intro c hc
    cases hc
    decide

theorem renderedError_wrap (x : String) : renderedError ("Ok(" ++ x ++ ")") = renderedError x := by
  have hlist : ("Ok(" ++ x ++ ")").toList = 'O' :: 'k' :: '(' :: (x.toList ++ [')']) := by
    simp
  rw [renderedError, renderedError, hlist, trim_eq_self (isTrimmed_wrapped _),
    innermost_of_unwrap? (unwrap?_wrapped _)]

/-- Neither wrappers nor blanks change what is found. -/
theorem Wraps.renderedError_eq {core s : String} {k : Nat} (h : Wraps core k s) :
    renderedError s = renderedError core := by
  induction h with
  | bare hbefore hafter => exact renderedError_pad core hbefore hafter
  | wrapped h hbefore hafter ih =>
    rw [renderedError_pad _ hbefore hafter, renderedError_wrap, ih]

theorem renderedError_self {error : String} (h : isError error.toList = true)
    (htrimmed : IsTrimmed error.toList) : renderedError error = some error := by
  rw [renderedError_eq_some_iff, trim_eq_self htrimmed,
    innermost_of_not_wrapped (unwrap?_of_isError h)]
  exact ⟨rfl, h⟩

theorem exists_wraps_of_renderedError {rendered error : String}
    (h : renderedError rendered = some error) : ∃ k, Wraps error k rendered := by
  rcases exists_rounds (trim rendered.toList) with ⟨n, hrounds, -⟩
  have hcore := hrounds.wraps rfl
  rw [(renderedError_eq_some_iff.mp h).1, String.ofList_toList] at hcore
  exact ⟨n, hcore⟩

theorem renderedError_eq_some_iff_wraps {rendered error : String} :
    renderedError rendered = some error ↔
      (∃ rest, error = "Err(" ++ rest) ∧ IsTrimmed error.toList ∧ ∃ k, Wraps error k rendered := by
  rw [← isError_iff]
  constructor
  · intro h
    exact ⟨(renderedError_eq_some_iff.mp h).2, isTrimmed_of_renderedError h,
      exists_wraps_of_renderedError h⟩
  · rintro ⟨herror, htrimmed, k, h⟩
    rw [h.renderedError_eq, renderedError_self herror htrimmed]

/-- The error in a rendered value is the one text that starts as an error does, has no blank at
either end, and becomes the value in some number of success wrappers; without such a text there is no
error. The search for it ends after at most as many rounds as there are fours of characters. Wrappers
and blanks around a value change nothing, and what was found is found in itself. -/
theorem renderedError_nested :
    (∀ rendered error, renderedError rendered = some error ↔
      (∃ rest, error = "Err(" ++ rest) ∧ IsTrimmed error.toList ∧ ∃ k, Wraps error k rendered) ∧
    (∀ rendered, renderedError rendered = none ↔
      ∀ rest k, IsTrimmed ("Err(" ++ rest).toList → ¬Wraps ("Err(" ++ rest) k rendered) ∧
    (∀ rendered : String, ∃ n rest, Rounds n (trim rendered.toList) rest ∧ unwrap? rest = none ∧
      4 * n ≤ rendered.length) ∧
    (∀ x, renderedError ("Ok(" ++ x ++ ")") = renderedError x) ∧
    (∀ before x after : String, AllBlank before.toList → AllBlank after.toList →
      renderedError (before ++ x ++ after) = renderedError x) ∧
    (∀ rendered error, renderedError rendered = some error → renderedError error = some error) := by
  refine ⟨fun _ _ => renderedError_eq_some_iff_wraps, ?_, ?_, renderedError_wrap,
    fun _ x _ => renderedError_pad x, ?_⟩
  · intro rendered
    rw [Option.eq_none_iff_forall_ne_some]
    constructor
    · intro h rest k htrimmed hwraps
      exact h _ (renderedError_eq_some_iff_wraps.mpr ⟨⟨rest, rfl⟩, htrimmed, k, hwraps⟩)
    · intro h error herror
      rcases renderedError_eq_some_iff_wraps.mp herror with ⟨⟨rest, rfl⟩, htrimmed, k, hwraps⟩
      exact h rest k htrimmed hwraps
  · intro rendered
    rcases exists_rounds (trim rendered.toList) with ⟨n, hrounds, hn⟩
    have htrim := length_trim_le rendered.toList
    rw [String.length_toList] at htrim
    exact ⟨n, _, hrounds, unwrap?_innermost _, Nat.le_trans hn htrim⟩
  · intro rendered error h
    exact renderedError_self (renderedError_eq_some_iff.mp h).2 (isTrimmed_of_renderedError h)

/-- Where one bracket is missing, the wrapper takes the one that is there, and the error lacks it. -/
theorem renderedError_nested_unbalanced :
    AllBlank "\t".toList ∧ AllBlank "\u00A0\n".toList ∧
    renderedError ("\t" ++ "Ok(Err(Denied)" ++ "\u00A0\n") = some "Err(Denied" ∧
    renderedError "Ok(Err(Denied)" = some "Err(Denied" ∧
    renderedError "Err(Denied" = some "Err(Denied" := by
  have hbefore : AllBlank "\t".toList := by simp [AllBlank, isBlank]
  have hafter : AllBlank "\u00A0\n".toList := by simp [AllBlank, isBlank]
  have hfound : renderedError "Ok(Err(Denied)" = some "Err(Denied" := by decide +kernel
  rcases renderedError_nested with ⟨-, -, -, -, hpad, hself⟩
  exact ⟨hbefore, hafter, (hpad _ _ _ hbefore hafter).trans hfound, hfound, hself _ _ hfound⟩

end Preflight.DryRun
