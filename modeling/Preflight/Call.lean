import Preflight.Json.Written

/-!
A call of a contract message by name, and the line that reports its success.
-/

namespace Preflight

/-- A message and its arguments, each encoded as text. -/
structure Call where
  method : String
  args : List String
  deriving DecidableEq, Repr

namespace Call

def argsText (call : Call) : String :=
  Json.textArray call.args

/-- The line that reports a success. It shows all arguments but the last. -/
def successMessage (contract : String) (call : Call) : String :=
  s!"Transaction succeeded: {contract}.{call.method}({Json.textArray call.args.dropLast})"

end Call

end Preflight
