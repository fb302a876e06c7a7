import ProgressActions.Signal

/-!
# Endings of processes

A process ends with a status or by a signal.
-/

namespace ProgressActions

/-- How a process ends. -/
inductive Ending where
  | exited (status : Nat)
  | killed (signal : Signal)
  deriving DecidableEq, Repr

namespace Ending

/-- The wording of an ending. -/
def description : Ending → String
  | exited status => "exit status: " ++ toString status
  | killed signal =>
    "signal: " ++ toString signal.number ++ " (" ++ String.ofList signal.fullName ++ ")"

/-- The status by which a shell knows an ending. -/
def shellStatus : Ending → Nat
  | exited status => status
  | killed signal => 128 + signal.number

/-- The signal that has ended a process. -/
def signal? : Ending → Option Signal
  | exited _ => none
  | killed signal => some signal

/-- Whether a process did its work. -/
def isSuccess : Ending → Bool
  | exited status => status == 0
  | killed _ => false

end Ending

end ProgressActions
