import ProgressActions.Ending
import ProgressActions.Machine.Error
import ProgressActions.Octets

/-!
# Places for commands

A command is a program with arguments and variables. What programs do is left open: a place has
variables of its own, and to a command that is launched there it answers with what the command wrote and
how it ended. So what is said about archives and their runs holds for every shell.
-/

namespace ProgressActions

/-- The variables that a process finds. -/
abbrev Environment := List (Octets × Octets)

namespace Launch

/-- Variables with further ones, of which a later one prevails over an earlier one. -/
def extend (environment : Environment) (further : Environment) : Environment :=
  further.foldl (fun all v ↦ v :: all.filter (·.1 != v.1)) environment

structure Command where
  program : Octets
  arguments : List Octets
  environment : Environment

/-- What comes of a command that is launched. -/
structure Execution where
  stdout : Octets
  stderr : Octets
  /-- How the command ended, or why it could not be started. -/
  outcome : Except SystemError Ending

/-- Places where commands are launched. -/
class Place (μ : Type) where
  /-- The variables that commands find unless they are given others. -/
  environment : μ → Environment
  /-- Launches a command and waits for its end. What the command does to the place stays. -/
  launch : Command → μ → Execution × μ

/-! ## Commands that fail -/

/-- Why a command cannot be started. -/
inductive LaunchError where
  | system (cause : SystemError)
  /-- A text for the command holds the octet zero. -/
  | zeroOctet
  deriving DecidableEq, Repr

namespace LaunchError

def message : LaunchError → String
  | system cause => cause.message
  | zeroOctet => "nul byte found in provided data"

end LaunchError

/-- Why a command did not succeed. -/
inductive CommandError where
  | launch (name : String) (cause : LaunchError)
  | ended (name : String) (ending : Ending)
  deriving DecidableEq, Repr

namespace CommandError

def message : CommandError → String
  | launch name cause => "Failed to execute \x60" ++ name ++ "\x60: " ++ cause.message
  | ended name ending => "Command \x60" ++ name ++ "\x60 failed with " ++ ending.description

end CommandError

/-- A command carried out: its output, and how it ended if that was a success. -/
structure CommandReport where
  stdout : Octets := []
  stderr : Octets := []
  result : Except CommandError Ending

namespace Command

variable {μ : Type} [Place μ]

/-- Whether a text of a command holds the octet zero. Such a command is never launched. -/
def holdsZero (c : Command) : Bool :=
  c.program.contains '\x00' || c.arguments.any (·.contains '\x00') ||
    c.environment.any fun v ↦ v.1.contains '\x00' || v.2.contains '\x00'

/-- Carries out a command at a place. The name stands for the program in messages. -/
def carryOut (name : String) (c : Command) (place : μ) : CommandReport × μ :=
  if c.holdsZero then ({ result := .error (.launch name .zeroOctet) }, place)
  else
    let (execution, next) := Place.launch c place
    let report : CommandReport :=
      { stdout := execution.stdout
        stderr := execution.stderr
        result := match execution.outcome with
          | .error cause => .error (.launch name (.system cause))
          | .ok ending => if ending.isSuccess then .ok ending else .error (.ended name ending) }
    (report, next)

end Command

end Launch

end ProgressActions
