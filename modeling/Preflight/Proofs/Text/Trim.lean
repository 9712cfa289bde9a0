import Mathlib.Data.List.DropRight
import Preflight.Text.Blank

/-!
Trimming, by what it leaves. Every text is a middle part between two runs of blanks, and exactly one
such part has no blank at either end: the trimmed text.
-/

namespace Preflight.Text

/-! ## 1. Texts without blanks at their ends -/

def AllBlank (cs : List Char) : Prop := ∀ c ∈ cs, isBlank c = true

/-- Neither the first character of a text nor its last one is blank. -/
structure IsTrimmed (cs : List Char) : Prop where
  head : ∀ c ∈ cs.head?, isBlank c = false
  last : ∀ c ∈ cs.getLast?, isBlank c = false

theorem AllBlank.reverse {cs : List Char} (h : AllBlank cs) : AllBlank cs.reverse :=
  fun c hc => h c (List.mem_reverse.mp hc)

theorem allBlank_takeWhile (cs : List Char) : AllBlank (cs.takeWhile isBlank) :=
  fun _ hc => List.mem_takeWhile_imp hc

theorem IsTrimmed.reverse {cs : List Char} (h : IsTrimmed cs) : IsTrimmed cs.reverse where
  head := by rw [List.head?_reverse]; exact h.last
  last := by rw [List.getLast?_reverse]; exact h.head

/-- A text of which no character is blank. -/
theorem isTrimmed_of_forall {cs : List Char} (h : ∀ c ∈ cs, isBlank c = false) : IsTrimmed cs where
  head c hc := h c (List.mem_of_mem_head? hc)
  last c hc := h c (List.mem_of_mem_getLast? hc)

/-! ## 2. What trimming leaves -/

theorem trimStart_of_allBlank {before : List Char} (h : AllBlank before) (cs : List Char) :
    trimStart (before ++ cs) = trimStart cs :=
  List.dropWhile_append_of_pos h

theorem trimStart_of_head {cs : List Char} (h : ∀ c ∈ cs.head?, isBlank c = false) :
    trimStart cs = cs := by
  cases cs with
  | nil => rfl
  | cons c cs =>
    have hc : ¬ isBlank c = true := by simp [h c rfl]
    rw [trimStart, List.dropWhile_cons_of_neg hc]

theorem head_trimStart (cs : List Char) : ∀ c ∈ (trimStart cs).head?, isBlank c = false := by
  intro c hc
  have hnot := List.head?_dropWhile_not isBlank cs
  rw [trimStart] at hc
  rw [Option.mem_def.mp hc] at hnot
  exact hnot

theorem trimEnd_eq (cs : List Char) : trimEnd cs = (trimStart cs.reverse).reverse := rfl

theorem trimEnd_append_of_allBlank {after : List Char} (h : AllBlank after) (cs : List Char) :
    trimEnd (cs ++ after) = trimEnd cs := by
  rw [trimEnd_eq, trimEnd_eq, List.reverse_append, trimStart_of_allBlank h.reverse]

theorem trimEnd_of_isTrimmed {cs : List Char} (h : IsTrimmed cs) : trimEnd cs = cs := by
  rw [trimEnd_eq, trimStart_of_head h.reverse.head, List.reverse_reverse]

theorem exists_trimEnd (cs : List Char) : ∃ after, AllBlank after ∧ cs = trimEnd cs ++ after :=
  ⟨cs.rtakeWhile isBlank, fun _ hc => List.mem_rtakeWhile_imp hc,
    (List.rdropWhile_append_rtakeWhile).symm⟩

theorem isTrimmed_trim (cs : List Char) : IsTrimmed (trim cs) where
  head := by
    -- what is cut off at the end does not reach the first character that is left
    intro c hc
    rcases exists_trimEnd (trimStart cs) with ⟨after, -, hsplit⟩
    apply head_trimStart cs
    rw [hsplit]
    exact List.mem_head?_append_of_mem_head? hc
  last := by
    intro c hc
    rw [trim, trimEnd_eq, List.getLast?_reverse] at hc
    exact head_trimStart _ c hc

theorem exists_trim (cs : List Char) :
    ∃ before after, AllBlank before ∧ AllBlank after ∧ cs = before ++ trim cs ++ after := by
  rcases exists_trimEnd (trimStart cs) with ⟨after, hafter, hsplit⟩
  refine ⟨cs.takeWhile isBlank, after, allBlank_takeWhile cs, hafter, ?_⟩
  rw [List.append_assoc, trim, ← hsplit, trimStart, List.takeWhile_append_dropWhile]

theorem trim_of_isTrimmed {before cs after : List Char} (hbefore : AllBlank before)
    (hafter : AllBlank after) (h : IsTrimmed cs) : trim (before ++ cs ++ after) = cs := by
  rw [trim, List.append_assoc, trimStart_of_allBlank hbefore]
  by_cases hnil : cs = []
  · rw [hnil, List.nil_append, ← List.append_nil after, trimStart_of_allBlank hafter]
    rfl
  · have hhead : ∀ c ∈ (cs ++ after).head?, isBlank c = false := by
      rw [List.head?_append_of_ne_nil _ hnil]
      exact h.head
    rw [trimStart_of_head hhead, trimEnd_append_of_allBlank hafter, trimEnd_of_isTrimmed h]

/-- The trimmed text is the one middle part between blanks that has no blank at either end. -/
theorem trim_eq_iff {cs trimmed : List Char} :
    trim cs = trimmed ↔ IsTrimmed trimmed ∧
      ∃ before after, AllBlank before ∧ AllBlank after ∧ cs = before ++ trimmed ++ after := by
  constructor
  · rintro rfl
    exact ⟨isTrimmed_trim cs, exists_trim cs⟩
  · rintro ⟨h, before, after, hbefore, hafter, rfl⟩
    exact trim_of_isTrimmed hbefore hafter h

/-- Blanks around a text do not change what trimming leaves of it. -/
theorem trim_append_of_allBlank {before cs after : List Char} (hbefore : AllBlank before)
    (hafter : AllBlank after) : trim (before ++ cs ++ after) = trim cs := by
  rcases exists_trim cs with ⟨first, last, hfirst, hlast, hsplit⟩
  have hstart : AllBlank (before ++ first) := List.forall_mem_append.mpr ⟨hbefore, hfirst⟩
  have hend : AllBlank (last ++ after) := List.forall_mem_append.mpr ⟨hlast, hafter⟩
  have h := trim_of_isTrimmed hstart hend (isTrimmed_trim cs)
  rw [← h]
  conv => lhs; rw [hsplit]
  simp only [List.append_assoc]

theorem trim_eq_self {cs : List Char} (h : IsTrimmed cs) : trim cs = cs := by
  have hempty : AllBlank [] := fun c hc => by cases hc
  simpa using trim_of_isTrimmed hempty hempty h

end Preflight.Text
