import ProgressActions.Engine.Session

/-!
# Ticks

Each tick stands for one record. When a multiple of the interval is reached, the program runs once
from end to end; an action that fails is logged and never keeps the others from running.
-/

namespace ProgressActions

namespace Act

variable {σ : Type}

/-- Writes a text and flushes the stream. -/
def put (stream : Stream) (text : List Char) : Act σ Unit := do
  write stream text
  flush stream

variable [Host σ]

/-- Writes a line to a stream: the host's name, and a template or else the default message. -/
def echo (stream : Stream) (isWrite : Bool) (checkpoint : Nat) (template : Option String) :
    Act σ Unit := do
  let opening := (Host.name (← get).host ++ ": ").toList
  write stream opening
  let text ← match template with
    | some text => pure text.toList
    | none => Template.defaultMessage isWrite
  let _ ← Template.render { stream, isWrite, checkpoint } text opening.length
  put stream ['\n']

/-- Renders a template on the terminal, from the first column on. -/
def ttyText (isWrite : Bool) (checkpoint : Nat) (template : String) : Act σ Unit := do
  let _ ← Template.render { stream := .terminal, isWrite, checkpoint } template.toList 0

/-- Has the host print totals that are up to date. -/
def freshTotals : Act σ Unit := do
  let _ ← elapsed
  printTotals

end Act

namespace Session

variable {σ : Type} [Host σ]

/-- An activity that needs the terminal. Without a terminal it is left out. -/
def withTerminal (activity : Act σ Unit) (s : Session σ) : Except Interruption Unit × Session σ :=
  let ready := s.openTerminal
  if ready.engine.slot = .opened then ready.attemptOnTerminal activity else (.ok (), ready)

def perform (isWrite : Bool) (action : Action) (s : Session σ) :
    Except Interruption Unit × Session σ :=
  let e := s.engine
  match action with
  | .dot => s.attempt (Act.put e.console.listing ['.'])
  | .bell => s.withTerminal (Act.put .terminal ['\x07'])
  | .echo => s.attempt (Act.echo e.console.diagnostics isWrite e.ticks none)
  | .echoText template => s.attempt (Act.echo e.console.diagnostics isWrite e.ticks (some template))
  | .ttyText template => s.withTerminal (Act.ttyText isWrite e.ticks template)
  | .sleep seconds => (.ok (), s.onWorld (·.pause (.ofSeconds seconds)))
  | .exec command => s.attempt (Act.exec command (Host.archive s.host) e.ticks)
  | .totals => s.attempt Act.freshTotals
  | .wait _ => (.ok (), s.onWorld (·.record (.wait e.signals.toList)))

/-- Takes note of an action that failed. -/
def noteFailure (action : Action) (cause : Failure) (s : Session σ) : Session σ :=
  s.debug (action.name ++ " action failed at #" ++ toString s.engine.ticks ++ ": " ++ cause.message)

/-- Carries out actions one after the other. Only a fault ends this early. -/
def performAll (isWrite : Bool) : List Action → Session σ → Except Stop Unit × Session σ
  | [], s => (.ok (), s)
  | action :: rest, s =>
    match s.perform isWrite action with
    | (.ok (), next) => performAll isWrite rest next
    | (.error (.failure cause), next) => performAll isWrite rest (next.noteFailure action cause)
    | (.error .crash, next) => (.error .crash, next)

/-- Counts one record, and runs the program if it is due. -/
def tick (isWrite : Bool) (s : Session σ) : Except Stop Unit × Session σ :=
  if s.engine.isSealed = false then (.error (.refused (.lifecycle .tick s.engine.phase)), s)
  else if s.engine.isEnabled = false then (.ok (), s)
  else
    let counted := s.onEngine fun e ↦ { e with ticks := e.ticks + 1 }
    if counted.engine.isDue then counted.performAll isWrite counted.engine.program
    else (.ok (), counted)

/-- Ticks one after the other, up to the first that does not succeed. -/
def tickAll : List Bool → Session σ → Except Stop Unit × Session σ
  | [], s => (.ok (), s)
  | isWrite :: rest, s =>
    match s.tick isWrite with
    | (.ok (), next) => tickAll rest next
    | stopped => stopped

end Session

end ProgressActions
