import ProgressActions.Signal

/-!
# Progress actions

What happens when a checkpoint is reached. Each action carries just the payload that it needs.
-/

namespace ProgressActions

/-- One action of a program. -/
inductive Action where
  /-- A dot on the listing stream. -/
  | dot
  /-- The bell of the terminal. -/
  | bell
  /-- The default message on the diagnostic stream. -/
  | echo
  /-- A template on the diagnostic stream. -/
  | echoText (template : String)
  /-- A template on the terminal. -/
  | ttyText (template : String)
  /-- A pause of whole seconds. -/
  | sleep (seconds : Nat)
  /-- A command that the host runs. -/
  | exec (command : String)
  /-- The byte totals so far. -/
  | totals
  /-- Suspension until a signal arrives. -/
  | wait (signal : Signal)
  deriving DecidableEq, Repr

namespace Action

/-- The keyword that introduces an action in a spec. -/
def name : Action → String
  | dot => "dot"
  | bell => "bell"
  | echo => "echo"
  | echoText _ => "echo"
  | ttyText _ => "ttyout"
  | sleep _ => "sleep"
  | exec _ => "exec"
  | totals => "totals"
  | wait _ => "wait"

/-- Whether an action writes to the terminal. -/
def usesTerminal : Action → Bool
  | bell => true
  | ttyText _ => true
  | _ => false

/-- Whether an action renders a template on the terminal. -/
def isTtyText : Action → Bool
  | ttyText _ => true
  | _ => false

/-- The signal that an action waits for. -/
def awaited? : Action → Option Signal
  | wait s => some s
  | _ => none

end Action

end ProgressActions
