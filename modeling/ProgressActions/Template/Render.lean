import ProgressActions.Calendar.Text
import ProgressActions.Host
import ProgressActions.Template.Piece

/-!
# Rendering of templates

A template is rendered piece by piece onto a stream, while the column of the cursor is counted in
characters. Directives that are not known are echoed without their argument.

The status directive expands to a built-in template, inside of which it no longer expands. So a
template is rendered in two layers: the pieces of the built-in template know only its echo.
-/

namespace ProgressActions.Template

open Text

/-- What a rendering is told: where it goes and which checkpoint it is for. -/
structure Job where
  stream : Stream
  isWrite : Bool
  checkpoint : Nat
  deriving DecidableEq, Repr

/-- The built-in status line: time, seconds, totals, blanks up to the width, and the way back. -/
def statusTemplate : List Char :=
  "%\x7b%Y-%m-%d %H:%M:%S\x7dt: %ds, %\x7bread,wrote\x7dT%*\r".toList

/-- The message of a bare echo when the archive is written. -/
def writeMessage : String := "Write checkpoint %u"

/-- The message of a bare echo when the archive is read. -/
def readMessage : String := "Read checkpoint %u"

/-- The most blanks that can be written at once. -/
def maxPadding : Nat := 65535

section

variable {σ : Type}

/-- A character that stands for itself. A carriage return brings the cursor back to the first column. -/
def renderLiteral (job : Job) (c : Char) (column : Nat) : Act σ Nat := do
  Act.write job.stream [c]
  if c = '\r' then
    modify ({ · with lineReset := true })
    pure 0
  else
    pure (column + 1)

/-- A directive that is not known. -/
def renderUnknown (job : Job) (letter : Char) (column : Nat) : Act σ Nat := do
  Act.write job.stream ['%', letter]
  pure (column + 2)

/-- A percent sign that ends the template, and its argument as it was written. -/
def renderDangling (job : Job) (argument : Option Argument) (column : Nat) : Act σ Nat := do
  Act.write job.stream ['%']
  match argument with
  | none => pure (column + 1)
  | some a =>
    Act.write job.stream ('\x7b' :: a.raw ++ ['\x7d'])
    pure (column + 1 + (a.raw.length + 2))

/-- Blanks up to a column. More blanks than can be written at once are a fault. -/
def renderPadding (job : Job) (argument : Option Argument) (column : Nat) : Act σ Nat := do
  let target ← match argument.bind (word? ·.value) with
    | some n => pure n
    | none => Act.width job.stream
  let padding := target - column
  if maxPadding < padding then throw .crash
  Act.write job.stream (List.replicate padding ' ')
  pure (column + padding)

/-- The local time by a pattern. -/
def renderTime (job : Job) (argument : Option Argument) (column : Nat) : Act σ Nat := do
  let pattern := (argument.map (·.value)).getD "%c".toList
  match Calendar.timeText? pattern (← get).world.localTime? with
  | some text => pure (column + (← Act.emit job.stream text))
  | none => throw .crash

variable [Host σ]

/-- The labels of an argument. Labels that cannot be split are reported, and the defaults serve. -/
def totalsLabels (argument : Option Argument) : Act σ Labels :=
  match argument with
  | none => pure {}
  | some a =>
    match splitLabels a.value with
    | .ok words => pure (.ofWords words)
    | .error e => do
      Act.reportError e.message
      pure {}

/-- A directive, given what the status directive does. -/
def renderDirective (job : Job) (status : Nat → Act σ Nat) (letter : Char)
    (argument : Option Argument) (column : Nat) : Act σ Nat :=
  match letter with
  | 'c' => status column
  | 'u' => do pure (column + (← Act.emit job.stream (numeral job.checkpoint)))
  | 's' => do
    let word ← Act.localized (if job.isWrite then "write" else "read")
    pure (column + (← Act.emit job.stream word))
  | 'd' => do
    let time ← Act.elapsed
    pure (column + (← Act.emit job.stream (time.toDouble.fixed 0)))
  | 'T' => do
    let _ ← Act.elapsed
    let labels ← totalsLabels argument
    pure (column + (← Act.totals job.stream labels ','))
  | 't' => renderTime job argument column
  | '*' => renderPadding job argument column
  | other => renderUnknown job other column

/-- A piece of a template, given what the status directive does. -/
def renderPiece (job : Job) (status : Nat → Act σ Nat) (piece : Piece) (column : Nat) : Act σ Nat :=
  match piece with
  | .literal c => renderLiteral job c column
  | .unclosed => do
    Act.write job.stream ['%', '\x7b']
    pure (column + 2)
  | .directive letter argument => renderDirective job status letter argument column
  | .dangling argument => renderDangling job argument column

/-- The pieces of a template in order, each from the column where the one before ends. -/
def renderPieces (job : Job) (status : Nat → Act σ Nat) : List Piece → (column : Nat) → Act σ Nat
  | [], column => pure column
  | piece :: rest, column => do renderPieces job status rest (← renderPiece job status piece column)

/-- The built-in status line. Its own status directives are echoed. -/
def renderStatus (job : Job) (column : Nat) : Act σ Nat :=
  renderPieces job (renderUnknown job 'c') (pieces statusTemplate) column

/-- A template from a column on. The answer is the column that the cursor ends on. -/
def renderText (job : Job) (template : List Char) (column : Nat) : Act σ Nat :=
  renderPieces job (renderStatus job) (pieces template) column

/-- A template from a column on, after which the stream is flushed. -/
def render (job : Job) (template : List Char) (column : Nat) : Act σ Nat := do
  let last ← renderText job template column
  Act.flush job.stream
  pure last

/-- The message of a bare echo, as the host words it. -/
def defaultMessage (isWrite : Bool) : Act σ (List Char) :=
  Act.localized (if isWrite then writeMessage else readMessage)

/-- Pieces are rendered one after the other, so a row of pieces may be cut anywhere. -/
theorem renderPieces_append (job : Job) (status : Nat → Act σ Nat) (first second : List Piece)
    (column : Nat) :
    renderPieces job status (first ++ second) column =
      (renderPieces job status first column >>= renderPieces job status second) := by
  induction first generalizing column with
  | nil => simp [renderPieces]
  | cons piece rest ih => simp [renderPieces, ih]

end

end ProgressActions.Template
