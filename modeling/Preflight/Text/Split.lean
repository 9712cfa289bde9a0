/-!
Cutting a text, or any other list, at every place where a separator stands, or at the first, and
joining pieces by a separator.
-/

namespace Preflight.Text

variable {α : Type}

/-! ## 1. Joining -/

-- pieces with a separator between each two of them
def joinBy (separator : α) : List (List α) → List α
  | [] => []
  | [piece] => piece
  | piece :: rest => piece ++ separator :: joinBy separator rest

/-! ## 2. Every separator -/

variable [DecidableEq α]

/-- What stands between the separators; there is at least one piece, and pieces may be empty. -/
def splitAt (separator : α) : List α → List (List α)
  | [] => [[]]
  | x :: xs =>
    if x = separator then [] :: splitAt separator xs
    else
      match splitAt separator xs with
      | [] => [[x]]
      | first :: rest => (x :: first) :: rest

/-! ## 3. The first separator -/

/-- What is before the first separator, and what is behind it if there is one. -/
def cutAt (separator : α) : List α → List α × Option (List α)
  | [] => ([], none)
  | x :: xs =>
    if x = separator then ([], some xs)
    else
      let (before, behind) := cutAt separator xs
      (x :: before, behind)

theorem cutAt_of_not_mem {separator : α} {xs : List α} (h : separator ∉ xs) :
    cutAt separator xs = (xs, none) := by
  induction xs with
  | nil => rfl
  | cons x xs ih =>
    rw [List.mem_cons, not_or] at h
    rw [cutAt, if_neg fun hx => h.1 hx.symm, ih h.2]

theorem cutAt_append {separator : α} {before : List α} (h : separator ∉ before)
    (behind : List α) : cutAt separator (before ++ separator :: behind) = (before, some behind) := by
  induction before with
  | nil => rw [List.nil_append, cutAt, if_pos rfl]
  | cons x before ih =>
    rw [List.mem_cons, not_or] at h
    rw [List.cons_append, cutAt, if_neg fun hx => h.1 hx.symm, ih h.2]

end Preflight.Text
