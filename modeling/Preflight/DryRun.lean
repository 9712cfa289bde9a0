import Preflight.Text.Blank

/-!
The outcome of simulating a call: the value that the message would return, the error that the
simulation reports, and how the two speak of failure. A returned value fails when it is an error
inside any number of success wrappers.
-/

namespace Preflight

/-- What a simulation reports. -/
structure DryRun where
  output : Option String := none
  error : Option String := none
  deriving DecidableEq, Repr

namespace DryRun

def success (output : String) : DryRun := { output := some output }

def failure (error : String) : DryRun := { error := some error }

/-! ## 1. Reported errors -/

-- error texts that say that there is no error
def emptyPayloads : List String := ["", "\x7b\x7d", "null", "()"]

/-- The reported error without the blanks around it, unless it is missing or says nothing. -/
def errorPayload (outcome : DryRun) : Option String :=
  match outcome.error with
  | none => none
  | some error =>
    let shown := String.ofList (Text.trim error.toList)
    if emptyPayloads.contains shown then none else some shown

/-! ## 2. Errors in returned values -/

-- what one success wrapper encloses
def unwrap? : List Char → Option (List Char)
  | 'O' :: 'k' :: '(' :: r => if r.getLast? = some ')' then some r.dropLast else none
  | _ => none

theorem length_lt_of_unwrap? {cs inner : List Char} (h : unwrap? cs = some inner) :
    inner.length < cs.length := by
  unfold unwrap? at h
  split at h
  · split at h
    · cases h
      simp only [List.length_dropLast, List.length_cons]
      omega
    · cases h
  · cases h

/-- What is left when every success wrapper is taken off, with the blanks around it. -/
def innermost (cs : List Char) : List Char :=
  match _h : unwrap? cs with
  | none => cs
  | some inner => innermost (Text.trim inner)
termination_by cs.length
decreasing_by
  have := length_lt_of_unwrap? _h
  have := Text.length_trim_le inner
  omega

def isError : List Char → Bool
  | 'E' :: 'r' :: 'r' :: '(' :: _ => true
  | _ => false

/-- The error in a rendered return value: what its success wrappers enclose, if that is an error. -/
def renderedError (rendered : String) : Option String :=
  let value := innermost (Text.trim rendered.toList)
  if isError value then some (String.ofList value) else none

-- the outcome of a simulation that returned the rendered value
def returning (rendered : String) : DryRun :=
  { output := some rendered, error := renderedError rendered }

end DryRun

end Preflight
