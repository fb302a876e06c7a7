import ProgressActions.Engine
import ProgressActions.Template.Render

/-!
# Sessions

An engine at work, in its surroundings and with its host. What an engine does leaves its mark on all
three: the program and the counters are the engine's, events and log lines the world's, and totals
the host's.
-/

namespace ProgressActions

/-- An engine, its surroundings and its host. -/
structure Session (σ : Type) where
  engine : Engine
  world : World
  host : σ

/-- Why an operation on a session does not succeed. -/
inductive Stop where
  | refused (cause : EngineError)
  /-- A fault that ends the run. -/
  | crash
  deriving DecidableEq, Repr

namespace Session

variable {σ : Type}

def engineModule : String := "checkpoint"

def onWorld (f : World → World) (s : Session σ) : Session σ := { s with world := f s.world }

def onEngine (f : Engine → Engine) (s : Session σ) : Session σ := { s with engine := f s.engine }

/-- Logs a debug message of the engine. -/
def debug (message : String) (s : Session σ) : Session σ :=
  s.onWorld (·.debug engineModule message)

/-- Lets time pass. -/
def advance (time : Duration) (s : Session σ) : Session σ := s.onWorld (·.advance time)

/-! ## Compiling -/

/-- Compiles a spec. A spec that is refused changes nothing. -/
def compile (spec : String) (s : Session σ) : Except EngineError Unit × Session σ :=
  match s.engine.compile spec with
  | .error cause => (.error cause, s)
  | .ok engine =>
    let number := toString engine.program.length
    (.ok (), { s with engine }.debug ("compiled action #" ++ number ++ ": " ++ spec))

/-- Blocks the signals of a compiled program and sets the engine to work. -/
def start (s : Session σ) : Session σ :=
  let started := s.onEngine Engine.start
  let actions := toString started.engine.program.length
  let interval := toString started.engine.interval
  (started.onWorld (·.record (.block started.engine.signals.toList))).debug
    (actions ++ " action(s) every " ++ interval ++ " record(s)")

/-- Completes the program. A second time, this does nothing. -/
def finishCompile (s : Session σ) : Except EngineError Unit × Session σ :=
  let (result, supplied) := if s.engine.lacksProgram then s.compile "echo" else (.ok (), s)
  match result with
  | .error cause => (.error cause, supplied)
  | .ok () =>
    let started := if supplied.engine.phase = .compiling then supplied.start else supplied
    (.ok (), started.onEngine Engine.complete)

/-! ## Activities -/

/-- The scene that the activities of a session begin with. -/
def scene (s : Session σ) : Scene σ := { world := s.world, host := s.host }

/-- The session after an activity that ended with a scene. -/
def after (s : Session σ) (last : Scene σ) : Session σ :=
  { s with world := last.world, host := last.host }

def attempt (activity : Act σ Unit) (s : Session σ) : Except Interruption Unit × Session σ :=
  let (outcome, last) := activity.run.run s.scene
  (outcome, s.after last)

/-- Whether a carriage return is taken note of. A fault leaves no time for that. -/
def noticesReturn : Except Interruption Unit × Scene σ → Bool
  | (.error .crash, _) => false
  | (_, last) => last.lineReset

/-- Carries out an activity on the terminal, and takes note of carriage returns. -/
def attemptOnTerminal (activity : Act σ Unit) (s : Session σ) :
    Except Interruption Unit × Session σ :=
  let run := activity.run.run s.scene
  (run.1, (s.after run.2).onEngine fun e ↦ { e with isDirty := e.isDirty || noticesReturn run })

/-- Opens the terminal if that has not been tried yet. -/
def openTerminal (s : Session σ) : Session σ :=
  match s.engine.slot with
  | .unopened =>
    match s.engine.console.terminal with
    | .ok sink =>
      (s.onEngine ({ · with slot := .opened })).onWorld fun w ↦
        { w with sinks := w.sinks.set .terminal sink }.record (.openTerminal true)
    | .error reason =>
      (s.onEngine ({ · with slot := .unavailable })).onWorld fun w ↦
        (w.record (.openTerminal false)).debug "tty" ("cannot open terminal: " ++ reason)
  | _ => s

/-- Flushes the terminal for the last time and lets it go. -/
def closeTerminal (s : Session σ) : Session σ :=
  let closed := match s.engine.slot with
    | .opened => s.onWorld fun w ↦ (w.flush .terminal).2.record .closeTerminal
    | _ => s
  closed.onEngine ({ · with slot := .unopened })

end Session

end ProgressActions
