import ProgressActions.Archive.Host
import ProgressActions.Config.Load
import ProgressActions.Engine.Finish
import ProgressActions.Engine.Tick
import ProgressActions.Options.Help
import ProgressActions.Options.Parse

/-!
# A whole run of the program

The command line is read, the configuration loaded and the actions compiled. Then records move through
the archive, each with its ticks, and in the end the terminal is restored.
-/

namespace ProgressActions

/-- What a run of the program finds. -/
structure Invocation (μ : Type := Launch.Site) where
  arguments : List Options.Argument
  read : FileReader
  home : String
  /-- The sink of the terminal, or the reason why it cannot be opened. -/
  terminal : Except String Sink
  /-- Whether interrupts can be handled, or the reason why not. -/
  interrupts : Except String Unit := .ok ()
  /-- Where commands are launched. -/
  site : μ
  /-- The surroundings of the run, with the sinks behind its streams. -/
  world : World := {}

/-- How a run of the program ends. -/
inductive Conclusion (μ : Type := Launch.Site) where
  /-- The command line is not accepted. -/
  | rejected (cause : Options.Rejection)
  /-- There is no configuration. -/
  | unconfigured (cause : ConfigError)
  /-- An action cannot be compiled. -/
  | refused (cause : EngineError)
  /-- The engine does not do what it is asked for between the actions and the end. -/
  | stopped (cause : EngineError)
  /-- Interrupts cannot be handled. -/
  | unguarded (reason : String)
  /-- All records have been moved. -/
  | completed (archive : Archive μ)
  /-- A fault has ended the run. -/
  | crashed

structure Outcome (μ : Type := Launch.Site) where
  conclusion : Conclusion μ
  world : World

namespace Conclusion

/-- The status of a run that cannot begin or has reported errors. -/
def failureStatus : Nat := 2

/-- The exit status of the program. A fault ends it by a signal, without a status of its own. -/
def status {μ : Type} : Conclusion μ → Nat
  | rejected (.displayHelp _) => 0
  | rejected .displayVersion => 0
  | rejected _ => failureStatus
  | unconfigured _ => 1
  | refused _ => failureStatus
  | stopped _ => 1
  | unguarded _ => 1
  | completed archive => archive.exitCode
  | crashed => 134

end Conclusion

namespace Run

variable {μ : Type}

/-- Where the listing goes: to the diagnostics when the archive itself takes the standard output. -/
def listing (c : Config) : Stream :=
  if c.archive = "-" ∧ c.mode ≠ .read then .stderr else .stdout

/-- The session of a run, before its actions are compiled. -/
def session (i : Invocation μ) (c : Config) (w : World) : Session (Archive μ) :=
  { engine :=
      { interval := c.engineInterval
        console := { listing := listing c, diagnostics := .stderr, terminal := i.terminal } }
    world := w
    host :=
      { archiveName := c.archive
        mode := c.mode
        recordSize := c.recordSize
        site := i.site } }

/-- Compiles specs in order, up to the first that is refused. -/
def compileAll : List String → Session (Archive μ) → Except EngineError Unit × Session (Archive μ)
  | [], s => (.ok (), s)
  | spec :: rest, s =>
    match s.compile spec with
    | (.ok (), next) => compileAll rest next
    | refused => refused

section Records

variable [Launch.Place μ]

/-- Moves one record, with its ticks. -/
def moveRecord (s : Session (Archive μ)) : Except Stop Unit × Session (Archive μ) :=
  ({ s with host := s.host.transfer }).tickAll s.host.nextTicks

/-- Moves records, each with its ticks and a rest after it. -/
def moveRecords (delay : Duration) : (blocks : Nat) → Session (Archive μ) →
    Except Stop Unit × Session (Archive μ)
  | 0, s => (.ok (), s)
  | blocks + 1, s =>
    match moveRecord s with
    | (.ok (), next) => moveRecords delay blocks (next.onWorld (·.pause delay))
    | stopped => stopped

end Records

def debug (message : String) (s : Session (Archive μ)) : Session (Archive μ) :=
  s.onWorld (·.debug "simulate" message)

/-- What is going to be done. -/
def announcement (c : Config) : String :=
  c.mode.name ++ " " ++ toString c.blocks ++ " record(s) of " ++ toString c.recordSize ++
    " bytes to " ++ c.archive

/-- What has been done. -/
def summary (s : Session (Archive μ)) : String :=
  toString s.host.records ++ " record(s), " ++ toString s.engine.ticks ++ " checkpoint tick(s)"

/-- The last words of a run that gives up. -/
def farewell (message : String) : String := "Error: " ++ message ++ "\n"

/-- Ends a run that gives up. -/
def giveUp (conclusion : Conclusion μ) (message : String) (s : Session (Archive μ)) :
    Conclusion μ × Session (Archive μ) :=
  (conclusion, s.onWorld fun w ↦ (w.write .stderr (Text.bytes (farewell message).toList)).2)

def concludeStop (s : Session (Archive μ)) : Stop → Conclusion μ × Session (Archive μ)
  | .refused cause => giveUp (.stopped cause) cause.message s
  | .crash => (.crashed, s)

/-- The session that records are moved in: it is announced, and the archive's timer starts. -/
def begun (c : Config) (s : Session (Archive μ)) : Session (Archive μ) :=
  let announced := debug (announcement c) s
  { announced with host := announced.host.resetTimer announced.world.passed }

section Records

variable [Launch.Place μ]

/-- Moves all records of a session whose actions are compiled, and restores the terminal. -/
def process (c : Config) (s : Session (Archive μ)) : Conclusion μ × Session (Archive μ) :=
  match moveRecords (.ofMilliseconds c.delay) c.blocks (begun c s) with
  | (.error .crash, last) => (.crashed, last)
  | (moved, last) =>
    match last.finish with
    | (.error stop, next) => concludeStop next stop
    | (.ok (), next) =>
      match moved with
      | .error stop => concludeStop next stop
      | .ok () =>
        let reported := debug (summary next) next
        (.completed reported.host, reported)

/-- What is said when interrupts cannot be handled. -/
def interruptComplaint (reason : String) : String :=
  "failed to set Ctrl+C handler: " ++ reason

/-- Goes on once the actions are compiled: records are moved if interrupts can be handled. -/
def proceed (c : Config) (interrupts : Except String Unit) (s : Session (Archive μ)) :
    Conclusion μ × Session (Archive μ) :=
  match interrupts with
  | .error reason => giveUp (.unguarded reason) (interruptComplaint reason) s
  | .ok () => process c s

/-- Compiles the actions of a configuration and goes on from there. -/
def execute (c : Config) (interrupts : Except String Unit) (s : Session (Archive μ)) :
    Conclusion μ × Session (Archive μ) :=
  match compileAll c.actions s with
  | (.error cause, next) => (.refused cause, next.onWorld (·.log "error" cause.message))
  | (.ok (), compiled) =>
    match compiled.finishCompile with
    | (.error cause, next) => giveUp (.stopped cause) cause.message next
    | (.ok (), ready) => proceed c interrupts ready

end Records

/-- Tells about a command line that asks for information or is not accepted. -/
def answerRejection (cause : Options.Rejection) (w : World) : World :=
  match cause with
  | .displayHelp isFull => (w.write .stdout (Text.bytes (Options.help isFull).toList)).2
  | .displayVersion => (w.write .stdout (Text.bytes Options.versionLine.toList)).2
  | _ => (w.write .stderr (Text.bytes cause.complaint.toList)).2

/-- What is said about a configuration that cannot be had: the error, and its cause if it has one. -/
def configComplaint (cause : ConfigError) : String :=
  let detail := match cause with
    | .unreadable _ reason => "\nCaused by:\n    " ++ reason.message ++ "\n"
    | .malformed => "\nCaused by:\n    TOML parse error\n"
    | .recordSize _ => ""
  farewell cause.message ++ detail

end Run

/-- What comes of an invocation, from its command line to its end. -/
def Invocation.run {μ : Type} [Launch.Place μ] (i : Invocation μ) : Outcome μ :=
  match Options.parse i.arguments with
  | .error cause => { conclusion := .rejected cause, world := Run.answerRejection cause i.world }
  | .ok options =>
    let world := { i.world with verbose := options.verbose }
    match Config.load i.read i.home options world with
    | (.error cause, next) =>
      { conclusion := .unconfigured cause
        world := (next.write .stderr (Text.bytes (Run.configComplaint cause).toList)).2 }
    | (.ok c, next) =>
      let (conclusion, last) := Run.execute c i.interrupts (Run.session i c next)
      { conclusion, world := last.world }

end ProgressActions
