import ProgressActions.Run
import Std.Time.DateTime.Timestamp

/-!
# The program

The outer layer: it gathers what a run needs, has the run computed, and then plays back what the run
wrote and how long it rested.
-/

namespace ProgressActions.Main

/-- What the attempt to read a file comes to. -/
def readFile (path : String) : IO (Except FileError (List UInt8)) := do
  try
    let content ← IO.FS.readBinFile path
    pure (.ok content.toList)
  catch cause =>
    match cause with
    | .inappropriateType _ code _ => pure (.error (if code = 20 then .notDirectory else .isDirectory))
    | _ => pure (.error .missing)

/-- The path of the file that a command line may lead to. -/
def configPath (home : String) (arguments : List Options.Argument) : String :=
  match Options.parse arguments with
  | .ok { config := some path, .. } => Config.expandHome home path
  | _ => Config.defaultPath

def openTerminal : IO (Except String IO.FS.Handle) := do
  try
    pure (.ok (← IO.FS.Handle.mk "/dev/tty" .write))
  catch cause => pure (.error (toString cause))

/-- The variables of the environment that a run looks at. -/
def environment (names : List String) : IO Environment := do
  let mut found := []
  for name in names do
    if let some value ← IO.getEnv name then
      found := (name.toList, Octets.ofBytes (Text.bytes value.toList)) :: found
  pure found

/-- Repeats an event of the run in the world outside. -/
def playBack (terminal : Except String IO.FS.Handle) : Event → IO Unit
  | .write .terminal content => do
    if let .ok handle := terminal then handle.write ⟨content.toArray⟩
  | .flush .terminal => do
    if let .ok handle := terminal then handle.flush
  | .write .stderr content => do (← IO.getStderr).write ⟨content.toArray⟩
  | .write _ content => do
    let stdout ← IO.getStdout
    stdout.write ⟨content.toArray⟩
    stdout.flush
  | .sleep time => IO.sleep (UInt32.ofNat (time.nanoseconds / 1000000))
  | _ => pure ()

end ProgressActions.Main

open ProgressActions in
/-- Runs the program with its command line. -/
def main (words : List String) : IO UInt32 := do
  let home := (← IO.getEnv "HOME").getD ""
  let arguments : List Options.Argument := words.map fun word ↦ { content := word.toList }
  let path := Main.configPath home arguments
  let content ← Main.readFile path
  let terminal ← Main.openTerminal
  let now ← Std.Time.Timestamp.now
  let invocation : Invocation Launch.Site :=
    { arguments
      read := fun other ↦ if other = path then content else .error .missing
      home
      terminal := terminal.map fun _ ↦ {}
      site := { environment := ← Main.environment ["HOME", "COLUMNS"] }
      world :=
        { startSeconds := now.val.second.val
          startNanos := now.val.nano.val.toNat
          columns := ← IO.getEnv "COLUMNS" } }
  let outcome := invocation.run
  for event in outcome.world.events do
    Main.playBack terminal event
  pure (UInt32.ofNat outcome.conclusion.status)
