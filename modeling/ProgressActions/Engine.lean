import ProgressActions.Action.Spec
import ProgressActions.Host
import ProgressActions.Signal.Mask

/-!
# The engine

An engine first collects a program of actions and then, once it is sealed, counts ticks. On every
tick that is a multiple of its interval the program runs. An engine without actions and without an
interval stays idle for good.
-/

namespace ProgressActions

/-- How far an engine has come. -/
inductive Phase where
  /-- No action has been compiled. -/
  | uninitialized
  /-- Actions have been compiled and more may follow. -/
  | compiling
  /-- The program is complete, its signals are blocked, and ticks count. -/
  | running
  deriving DecidableEq, Repr

namespace Phase

def name : Phase → String
  | uninitialized => "uninitialized"
  | compiling => "compiling"
  | running => "running"

end Phase

/-- What cannot be done in every phase. -/
inductive Undertaking where
  | compile
  | tick
  deriving DecidableEq, Repr

namespace Undertaking

def description : Undertaking → String
  | compile => "compile checkpoint actions"
  | tick => "run checkpoint actions"

end Undertaking

/-- Why an engine refuses. -/
inductive EngineError where
  | spec (cause : SpecError)
  /-- The time for this is over, or has not come yet. -/
  | lifecycle (undertaking : Undertaking) (phase : Phase)
  deriving DecidableEq, Repr

namespace EngineError

def message : EngineError → String
  | spec cause => cause.message
  | lifecycle undertaking phase =>
    "cannot " ++ undertaking.description ++ " while checkpoints are " ++ phase.name

end EngineError

/-- The interval of a program that asks for none. -/
def defaultInterval : Nat := 10

/-- A program of actions and its progress. -/
structure Engine where
  phase : Phase := .uninitialized
  /-- Whether the program is complete. -/
  isSealed : Bool := false
  /-- Ticks from one run of the program to the next; zero asks for none. -/
  interval : Nat
  program : List Action := []
  /-- The signals that the program waits for. -/
  signals : Signal.Mask := .empty
  /-- The ticks so far, and the number of the checkpoint. -/
  ticks : Nat := 0
  console : Console
  slot : TerminalSlot := .unopened
  /-- Whether a carriage return was sent to the terminal by a template. -/
  isDirty : Bool := false

namespace Engine

/-- Whether the program will run. -/
def isEnabled (e : Engine) : Bool := e.phase == .running && 0 < e.interval

/-- The engine with one more action at the end of its program. -/
def append (e : Engine) (action : Action) : Engine :=
  { e with
    phase := .compiling
    program := e.program ++ [action]
    signals := match action.awaited? with
      | some signal => e.signals.add signal
      | none => e.signals }

def compile (e : Engine) (spec : String) : Except EngineError Engine :=
  if e.isSealed then .error (.lifecycle .compile e.phase)
  else
    match Action.parse spec with
    | .ok action => .ok (e.append action)
    | .error cause => .error (.spec cause)

/-- Whether the bare echo has to stand in for a program: an interval is asked for, and no action. -/
def lacksProgram (e : Engine) : Bool :=
  e.phase == .uninitialized && 0 < e.interval && e.program.isEmpty

/-- The engine at work, its signals blocked and its interval settled. -/
def start (e : Engine) : Engine :=
  { e with
    phase := .running
    signals := e.signals.block
    interval := if e.interval = 0 then defaultInterval else e.interval }

def complete (e : Engine) : Engine := { e with isSealed := true }

/-- Whether the program runs on the current tick. -/
def isDue (e : Engine) : Bool := e.ticks % e.interval == 0

@[simp] theorem phase_append (e : Engine) (action : Action) :
    (e.append action).phase = .compiling := rfl

@[simp] theorem program_append (e : Engine) (action : Action) :
    (e.append action).program = e.program ++ [action] := rfl

@[simp] theorem phase_start (e : Engine) : e.start.phase = .running := rfl

@[simp] theorem blocked_start (e : Engine) : e.start.signals.blocked = true := rfl

@[simp] theorem program_start (e : Engine) : e.start.program = e.program := rfl

theorem interval_start_pos (e : Engine) : 0 < e.start.interval := by
  unfold start
  simp only
  split
  · decide
  · omega

theorem compile_of_isSealed {e : Engine} (h : e.isSealed = true) (spec : String) :
    e.compile spec = .error (.lifecycle .compile e.phase) := by
  simp [compile, h]

end Engine

end ProgressActions
