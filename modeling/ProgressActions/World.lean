import ProgressActions.Calendar.LocalTime
import ProgressActions.Event
import ProgressActions.Log
import ProgressActions.Text.Utf8

/-!
# The surroundings of a run

Time, the settings that an environment makes, the sinks behind the streams, and the trace of what
has happened. The clock stands still except when it is moved.
-/

namespace ProgressActions

/-- Everything around an engine and its host. -/
structure World where
  /-- Unix seconds on the wall clock when the run began. -/
  startSeconds : Int := 1700000000
  /-- Nanoseconds to add to them. -/
  startNanos : Nat := 0
  /-- Seconds that the local clock is ahead of universal time. -/
  offset : Int := 0
  /-- How much time has passed since the run began. -/
  passed : Duration := .zero
  /-- The width that the environment claims. -/
  columns : Option String := none
  /-- Whether debug messages are logged. -/
  verbose : Bool := false
  sinks : Sinks := {}
  /-- What has happened, in order. -/
  trace : Array Event := #[]

namespace World

/-- Adds an event to the trace. -/
def record (w : World) (event : Event) : World := { w with trace := w.trace.push event }

/-- What has happened, in order. -/
def events (w : World) : List Event := w.trace.toList

/-- The world with an empty trace. -/
def forget (w : World) : World := { w with trace := #[] }

/-- Writes bytes to a stream. The answer tells whether its sink stored them all. -/
def write (w : World) (stream : Stream) (content : List UInt8) : Bool × World :=
  let sink := w.sinks.get stream
  let stored := sink.stored content
  let next := { w with sinks := w.sinks.set stream (sink.afterWrite content) }
  (sink.fits content, if stored = [] then next else next.record (.write stream stored))

/-- Flushes a stream. The answer tells whether that worked. -/
def flush (w : World) (stream : Stream) : Bool × World :=
  (!(w.sinks.get stream).flushFails, w.record (.flush stream))

/-- Writes a line of the log to the standard error of the process. -/
def log (w : World) (moduleName message : String) : World :=
  (w.write .stderr (Text.bytes (Log.line moduleName message))).2

/-- Writes a line of the log if debug messages are asked for. -/
def debug (w : World) (moduleName message : String) : World :=
  if w.verbose then w.log moduleName message else w

/-- Lets time pass. -/
def advance (w : World) (time : Duration) : World :=
  { w with passed := ⟨w.passed.nanoseconds + time.nanoseconds⟩ }

/-- Lets time pass in a pause. A pause without length is none. -/
def pause (w : World) (time : Duration) : World :=
  if time.nanoseconds = 0 then w else (w.record (.sleep time)).advance time

/-- Local time, if the calendar has it. -/
def localTime? (w : World) : Option Calendar.LocalTime :=
  let nanos := w.startNanos + w.passed.nanoseconds
  Calendar.LocalTime.ofUnix? (w.startSeconds + (nanos / Duration.perSecond : Nat)) (nanos % Duration.perSecond)
    w.offset

@[simp] theorem events_record (w : World) (event : Event) :
    (w.record event).events = w.events ++ [event] := by
  simp [record, events]

@[simp] theorem sinks_record (w : World) (event : Event) : (w.record event).sinks = w.sinks := rfl

@[simp] theorem events_forget (w : World) : w.forget.events = [] := rfl

@[simp] theorem passed_advance (w : World) (time : Duration) :
    (w.advance time).passed.nanoseconds = w.passed.nanoseconds + time.nanoseconds := rfl

/-- A write of nothing succeeds on every sink and leaves no event. -/
theorem write_nil (w : World) (stream : Stream) :
    (w.write stream []).1 = true ∧ (w.write stream []).2.events = w.events := by
  have hstored : (w.sinks.get stream).stored [] = [] := by
    unfold Sink.stored
    split <;> simp
  simp [write, hstored, events]

/-- The standard error of the process takes everything. -/
theorem write_stderr {content : List UInt8} (h : content ≠ []) (w : World) :
    w.write .stderr content = (true, w.record (.write .stderr content)) :=
  congrArg (Prod.mk true) (if_neg h)

/-- A line of the log is stored on the standard error, and nothing else happens. -/
theorem log_eq (w : World) (moduleName message : String) :
    w.log moduleName message =
      w.record (.write .stderr (Text.bytes (Log.line moduleName message))) := by
  have hhead : String.utf8EncodeChar '\x1b' ≠ [] := by decide
  have hline : Text.bytes (Log.line moduleName message) ≠ [] := by
    simp [Log.line, Log.rendition, hhead]
  exact congrArg Prod.snd (write_stderr hline w)

theorem events_debug (w : World) (moduleName message : String) :
    (w.debug moduleName message).events =
      w.events ++
        if w.verbose then [.write .stderr (Text.bytes (Log.line moduleName message))] else [] := by
  unfold debug
  split
  · rw [log_eq, events_record]
  · rw [List.append_nil]

end World

end ProgressActions
