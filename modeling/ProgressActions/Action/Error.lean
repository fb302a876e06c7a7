/-!
# Errors of action specs

A spec is refused for its keyword or for its payload. The error quotes what was not understood.
-/

namespace ProgressActions

/-- Why a spec is refused. -/
inductive SpecError where
  | unknownAction (spec : String)
  | invalidTimeout (spec : String)
  | unknownSignal (name : String)
  deriving DecidableEq, Repr

namespace SpecError

def message : SpecError → String
  | unknownAction spec => spec ++ ": unknown checkpoint action"
  | invalidTimeout spec => spec ++ ": not a valid timeout"
  | unknownSignal name => name ++ ": unknown signal"

end SpecError

end ProgressActions
