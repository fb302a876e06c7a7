import ProgressActions.Terminal
import ProgressActions.World

/-!
# Hosts

The archiver behind a run. An engine asks its host for names, for the time that has passed and for
byte totals, and has it run commands and take note of errors. A host answers from a state of its own
and never touches a stream: what it wants written it hands back.
-/

namespace ProgressActions

/-- What became of a command that a host ran. -/
structure ScriptReport where
  /-- What the command wrote to the standard output. -/
  stdout : List UInt8 := []
  /-- What the command wrote to the standard error. -/
  stderr : List UInt8 := []
  /-- A warning that the host logs. -/
  warning : Option String := none
  /-- Why the host gave up. -/
  failure : Option String := none
  deriving DecidableEq, Repr

/-- The services of an archiver with states of type `σ`. -/
class Host (σ : Type) where
  /-- The name that opens an echoed line. -/
  name : σ → String
  /-- The text for a message. -/
  localize : σ → String → String
  /-- The archive that is being processed. -/
  archive : σ → String
  /-- The time since the host's timer began, at a moment of the run; the host may remember it. -/
  measure : (moment : Duration) → σ → Duration × σ
  /-- A line of totals. -/
  totals : σ → Template.Labels → (separator : Char) → Except Failure String
  /-- The full report of totals, for the standard error. -/
  report : σ → Except Failure String
  /-- Runs a command, which may change what later commands find. -/
  exec : (command archive : String) → (checkpoint : Nat) → σ → ScriptReport × σ
  /-- Takes note of an error. The answer is what the host logs about it. -/
  noteError : (message : String) → σ → Option String × σ

/-- A host and its surroundings, as an action finds them. -/
structure Scene (σ : Type) where
  world : World
  host : σ
  /-- Whether a carriage return of a template has been written. -/
  lineReset : Bool := false

/-- Why an activity ends early: a failure, which an engine survives, or a fault, which nothing does. -/
inductive Interruption where
  | failure (cause : Failure)
  | crash
  deriving DecidableEq, Repr

/-- An activity in a scene. What it did before it was interrupted stays done. -/
abbrev Act (σ : Type) := ExceptT Interruption (StateM (Scene σ))

namespace Act

variable {σ : Type}

def onWorld (f : World → World) : Act σ Unit :=
  modify fun s ↦ { s with world := f s.world }

/-- Adds an event to the trace. -/
def record (event : Event) : Act σ Unit := onWorld (·.record event)

/-- Ends the activity. -/
def fail {α : Type} (cause : Failure) : Act σ α := throw (.failure cause)

/-- Writes a text to a stream. -/
def write (stream : Stream) (text : List Char) : Act σ Unit := do
  let (fits, world) := (← get).world.write stream (Text.bytes text)
  modify ({ · with world })
  unless fits do fail .sinkFull

/-- Writes a text and tells how many characters it has. -/
def emit (stream : Stream) (text : List Char) : Act σ Nat := do
  write stream text
  pure text.length

def flush (stream : Stream) : Act σ Unit := do
  let (works, world) := (← get).world.flush stream
  modify ({ · with world })
  unless works do fail .flushFailed

/-- The width of the window behind a stream. -/
def width (stream : Stream) : Act σ Nat := do
  let world := (← get).world
  pure (resolveWidth (world.sinks.get stream).width world.columns)

variable [Host σ]

/-- The host's text for a message. -/
def localized (message : String) : Act σ (List Char) := do
  pure (Host.localize (← get).host message).toList

/-- The time that has passed on the host's timer. -/
def elapsed : Act σ Duration := do
  record .askElapsed
  let s ← get
  let (time, host) := Host.measure s.world.passed s.host
  set { s with host }
  pure time

/-- Writes a line of totals and tells how many characters it has. -/
def totals (stream : Stream) (labels : Template.Labels) (separator : Char) : Act σ Nat := do
  record (.askTotals labels separator)
  match Host.totals (← get).host labels separator with
  | .ok text => emit stream text.toList
  | .error cause => fail cause

/-- Has the host print its totals to the standard error. -/
def printTotals : Act σ Unit := do
  record .printTotals
  match Host.report (← get).host with
  | .ok text => write .stderr text.toList
  | .error cause => fail cause

/-- Has the host run a command. -/
def exec (command archive : String) (checkpoint : Nat) : Act σ Unit := do
  record (.exec command archive checkpoint)
  let s ← get
  let (report, host) := Host.exec command archive checkpoint s.host
  set { s with host }
  onWorld fun w ↦ (w.write .stdout report.stdout).2
  onWorld fun w ↦ (w.write .stderr report.stderr).2
  match report.warning with
  | some text => onWorld (·.log "exec" text)
  | none => pure ()
  match report.failure with
  | some text => fail (.script text)
  | none => pure ()

/-- Tells the host about an error. -/
def reportError (message : String) : Act σ Unit := do
  record (.reportError message)
  let s ← get
  let (line, host) := Host.noteError message s.host
  set { s with host }
  match line with
  | some text => onWorld (·.log "error" text)
  | none => pure ()

end Act

end ProgressActions
