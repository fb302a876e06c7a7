import ProgressActions.Archive
import ProgressActions.Host

/-!
# An archive as a host

An archive answers from its counters. Commands run in a shell that finds the archive's variables; a
command that fails is only warned about.
-/

namespace ProgressActions.Archive

open Text

/-- The shell that runs commands. -/
def shellPath : String := "/bin/sh"

variable {μ : Type}

/-- The variables for a command, besides those of the site. -/
def scriptEnvironment (a : Archive μ) (archive : String) (checkpoint : Nat) : Environment :=
  let octets : String → Octets := fun text ↦ Octets.ofBytes (bytes text.toList)
  (a.scriptVariables archive checkpoint).map fun (name, value) ↦ (octets name, octets value)

variable [Launch.Place μ]

/-- The shell that runs a script. It finds the variables of the site too. -/
def scriptCommand (a : Archive μ) (script archive : String) (checkpoint : Nat) : Launch.Command :=
  { program := shellPath.toList
    arguments := ["-c".toList, Octets.ofBytes (bytes script.toList)]
    environment :=
      Launch.extend (Launch.Place.environment a.site) (a.scriptEnvironment archive checkpoint) }

/-- Runs a script at the site. What it does there stays. -/
def runScript (a : Archive μ) (script archive : String) (checkpoint : Nat) :
    Launch.CommandReport × Archive μ :=
  let (report, site) := (a.scriptCommand script archive checkpoint).carryOut shellPath a.site
  (report, { a with site })

/-- The warning about a command that failed. -/
def scriptWarning (script : String) (cause : Launch.CommandError) : String :=
  "warning: checkpoint script \x60" ++ script ++ "\x60: " ++ cause.message

/-- What becomes of a command: its output, and a warning if it fails. -/
def scriptReport (a : Archive μ) (script archive : String) (checkpoint : Nat) : ScriptReport × Archive μ :=
  let (report, next) := a.runScript script archive checkpoint
  ({ stdout := Octets.toBytes report.stdout
     stderr := Octets.toBytes report.stderr
     warning := match report.result with
       | .ok _ => none
       | .error cause => some (scriptWarning script cause) }, next)

instance : Host (Archive μ) where
  name _ := programName
  localize _ message := message
  archive a := a.archiveName
  measure moment a :=
    let measured := a.measure moment
    (measured.elapsed, measured)
  totals a labels separator := .ok (String.ofList (a.totalsText labels separator))
  report a := .ok (String.ofList (a.totalsText reportLabels '\n' ++ ['\n']))
  exec command archive checkpoint a := a.scriptReport command archive checkpoint
  noteError message a := (some message, a.noteError)

/-- A command never makes the archive give up. -/
@[simp] theorem failure_scriptReport (a : Archive μ) (script archive : String) (checkpoint : Nat) :
    (a.scriptReport script archive checkpoint).1.failure = none := rfl

end ProgressActions.Archive
