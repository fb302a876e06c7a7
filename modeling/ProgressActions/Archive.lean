import ProgressActions.Launch
import ProgressActions.Size
import ProgressActions.Template.Labels

/-!
# An archive that is only counted

Records of a fixed size are moved through an archive without any data behind them. Each transfer
counts bytes and causes ticks: one for the reading and one for the writing of a record. An archive knows
the place at which its commands are launched, whichever that is.
-/

namespace ProgressActions

/-- What is done with the records of an archive. -/
inductive Mode where
  | read
  | write
  /-- Records are read, and every second one is written back. -/
  | delete
  deriving DecidableEq, Repr

namespace Mode

def name : Mode → String
  | read => "read"
  | write => "write"
  | delete => "delete"

def ofName? (name : String) : Option Mode :=
  [read, write, delete].find? fun m ↦ m.name == name

/-- The archiver's option for a mode. -/
def subcommand : Mode → String
  | read => "-t"
  | write => "-c"
  | delete => "--delete"

@[simp] theorem ofName?_name (m : Mode) : ofName? m.name = some m := by
  cases m <;> decide

end Mode

/-- Bytes in a block. -/
def blockSize : Nat := 512

/-- An archive with its counters. -/
structure Archive (μ : Type := Launch.Site) where
  archiveName : String
  mode : Mode
  recordSize : Nat
  records : Nat := 0
  bytesRead : Nat := 0
  bytesWritten : Nat := 0
  /-- The moment of the run at which the timer was started. -/
  timerStart : Duration := .zero
  /-- The time that the timer showed when it was last looked at. -/
  elapsed : Duration := .zero
  /-- How many errors have been reported. -/
  errors : Nat := 0
  /-- Where commands are launched. -/
  site : μ

namespace Archive

variable {μ : Type}

/-- Bytes that were read and not written back, in the only mode that drops records. -/
def bytesDeleted (a : Archive μ) : Nat :=
  match a.mode with
  | .delete => a.bytesRead - a.bytesWritten
  | _ => 0

/-- Starts the timer at a moment of the run. -/
def resetTimer (a : Archive μ) (moment : Duration) : Archive μ :=
  { a with timerStart := moment, elapsed := .zero }

/-- Looks at the timer at a moment of the run. -/
def measure (a : Archive μ) (moment : Duration) : Archive μ :=
  { a with elapsed := ⟨moment.nanoseconds - a.timerStart.nanoseconds⟩ }

/-- The ticks that the next record causes: reading is false, writing is true. -/
def nextTicks (a : Archive μ) : List Bool :=
  match a.mode with
  | .read => [false]
  | .write => [true]
  | .delete => if a.records % 2 = 0 then [false, true] else [false]

/-- Moves one record. When records are deleted, the first is written back and the next is dropped. -/
def transfer (a : Archive μ) : Archive μ :=
  let moved := { a with records := a.records + 1 }
  match a.mode with
  | .read => { moved with bytesRead := a.bytesRead + a.recordSize }
  | .write => { moved with bytesWritten := a.bytesWritten + a.recordSize }
  | .delete =>
    { moved with
      bytesRead := a.bytesRead + a.recordSize
      bytesWritten := if a.records % 2 = 0 then a.bytesWritten + a.recordSize else a.bytesWritten }

/-- Takes note of an error. -/
def noteError (a : Archive μ) : Archive μ := { a with errors := a.errors + 1 }

/-- The exit status is 2 once an error was reported. -/
def exitCode (a : Archive μ) : Nat := if 0 < a.errors then 2 else 0

/-- The totals as of the last look at the timer. -/
def totalsText (a : Archive μ) (labels : Template.Labels) (separator : Char) : List Char :=
  let readFigure := Size.figure labels.read.toList a.bytesRead a.elapsed
  let writtenFigure := Size.figure labels.written.toList a.bytesWritten a.elapsed
  match a.mode with
  | .read => readFigure
  | .write => writtenFigure
  | .delete => readFigure ++ separator :: writtenFigure ++ separator ::
      Size.plainFigure labels.deleted.toList a.bytesDeleted

/-- The labels of the full report. -/
def reportLabels : Template.Labels :=
  { read := "Total bytes read", written := "Total bytes written", deleted := "Total bytes deleted" }

def programName : String := "checkpoint"

def programVersion : String := "0.1.0"

/-- The variables that a command finds in its environment. -/
def scriptVariables (a : Archive μ) (archive : String) (checkpoint : Nat) : List (String × String) :=
  [("TAR_VERSION", programVersion),
   ("TAR_ARCHIVE", archive),
   ("TAR_CHECKPOINT", String.ofList (Text.numeral checkpoint)),
   ("TAR_BLOCKING_FACTOR", String.ofList (Text.numeral (a.recordSize / blockSize))),
   ("TAR_SUBCOMMAND", a.mode.subcommand),
   ("TAR_FORMAT", "gnu")]

@[simp] theorem records_transfer (a : Archive μ) : a.transfer.records = a.records + 1 := by
  unfold transfer
  split <;> rfl

@[simp] theorem mode_transfer (a : Archive μ) : a.transfer.mode = a.mode := by
  unfold transfer
  split <;> rfl

@[simp] theorem recordSize_transfer (a : Archive μ) : a.transfer.recordSize = a.recordSize := by
  unfold transfer
  split <;> rfl

@[simp] theorem errors_transfer (a : Archive μ) : a.transfer.errors = a.errors := by
  unfold transfer
  split <;> rfl

end Archive

end ProgressActions
