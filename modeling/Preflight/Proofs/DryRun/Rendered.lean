import Preflight.DryRun
import Preflight.Proofs.Text.Trim

/-!
Errors in rendered return values. Taking off the success wrappers leaves a text without blanks at its
ends, so an error found in it starts with its own first letter and is no payload that says nothing:
reporting it as the error of an outcome changes nothing about it.
-/

namespace Preflight.DryRun

open Text

-- The invariant of the descent: a trimmed text leads to a trimmed text.
theorem isTrimmed_innermost {cs : List Char} (h : IsTrimmed cs) : IsTrimmed (innermost cs) := by
  induction cs using innermost.induct with
  | case1 cs hunwrap =>
    rw [innermost, hunwrap]
    exact h
  | case2 cs inner hunwrap ih =>
    rw [innermost, hunwrap]
    exact ih (isTrimmed_trim inner)

theorem renderedError_eq_some_iff {rendered error : String} :
    renderedError rendered = some error ↔
      innermost (trim rendered.toList) = error.toList ∧ isError error.toList = true := by
  rw [renderedError]
  constructor
  · intro h
    by_cases herror : isError (innermost (trim rendered.toList)) = true
    · rw [if_pos herror] at h
      rw [← Option.some.inj h, String.toList_ofList]
      exact ⟨rfl, herror⟩
    · rw [if_neg herror] at h
      cases h
  · rintro ⟨hvalue, herror⟩
    rw [hvalue, if_pos herror, String.ofList_toList]

theorem isTrimmed_of_renderedError {rendered error : String}
    (h : renderedError rendered = some error) : IsTrimmed error.toList := by
  rw [← (renderedError_eq_some_iff.mp h).1]
  exact isTrimmed_innermost (isTrimmed_trim _)

theorem not_mem_emptyPayloads {error : String} (h : isError error.toList = true) :
    error ∉ emptyPayloads := by
  intro hmem
  have hnone : ∀ payload ∈ emptyPayloads, isError payload.toList = false := by decide
  rw [hnone error hmem] at h
  cases h

-- The outcome of a returned value reports the error that is in the value, and no other.
theorem errorPayload_returning (rendered : String) :
    (returning rendered).errorPayload = renderedError rendered := by
  rw [errorPayload, returning]
  cases h : renderedError rendered with
  | none => rfl
  | some error =>
    have htrim : String.ofList (trim error.toList) = error := by
      rw [trim_eq_self (isTrimmed_of_renderedError h), String.ofList_toList]
    have hsays : ¬ emptyPayloads.contains error = true := by
      rw [List.contains_iff_mem]
      exact not_mem_emptyPayloads (renderedError_eq_some_iff.mp h).2
    simp only [htrim, if_neg hsays]

end Preflight.DryRun
