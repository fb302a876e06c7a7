/-!
# Streams and the sinks behind them

Output goes to named streams. A stream ends in a sink, which may know the width of a window, may have
room for a limited number of bytes only, and may refuse to be flushed.
-/

namespace ProgressActions

/-- Where output goes. -/
inductive Stream where
  /-- A stream that a template is rendered onto by itself. -/
  | out
  /-- The listing of an engine with streams of its own. -/
  | listing
  /-- The diagnostics of an engine with streams of its own. -/
  | diagnostics
  /-- The controlling terminal. -/
  | terminal
  /-- The standard output of the process. -/
  | stdout
  /-- The standard error of the process. -/
  | stderr
  deriving DecidableEq, Repr

/-- Why an action stops early. -/
inductive Failure where
  /-- A sink had no room for all bytes of a write. -/
  | sinkFull
  /-- A sink could not be flushed. -/
  | flushFailed
  /-- A host has no totals to show. -/
  | noTotals
  /-- A host could not run a command. -/
  | script (message : String)
  deriving DecidableEq, Repr

namespace Failure

def message : Failure → String
  | sinkFull => "sink full"
  | flushFailed => "flush failed"
  | noTotals => "no totals"
  | script text => text

end Failure

/-- What takes the bytes of a stream. -/
structure Sink where
  /-- The width of the window behind the sink. -/
  width : Option Nat := none
  /-- The number of bytes that still fit; without a number there is no limit. -/
  room : Option Nat := none
  /-- Whether each flush fails. -/
  flushFails : Bool := false
  deriving DecidableEq, Repr

namespace Sink

/-- The bytes of a write that are stored. -/
def stored (s : Sink) (content : List UInt8) : List UInt8 :=
  match s.room with
  | none => content
  | some n => content.take n

/-- Whether all bytes of a write are stored. -/
def fits (s : Sink) (content : List UInt8) : Bool :=
  match s.room with
  | none => true
  | some n => content.length ≤ n

def afterWrite (s : Sink) (content : List UInt8) : Sink :=
  { s with room := s.room.map (· - content.length) }

theorem stored_of_fits {s : Sink} {content : List UInt8} (h : s.fits content = true) :
    s.stored content = content := by
  unfold fits at h
  unfold stored
  split
  · rfl
  · rename_i n hn
    rw [hn] at h
    exact List.take_of_length_le (by simpa using h)

@[simp] theorem fits_nil (s : Sink) : s.fits [] = true := by
  unfold fits
  split <;> simp

@[simp] theorem width_afterWrite (s : Sink) (content : List UInt8) :
    (s.afterWrite content).width = s.width := rfl

@[simp] theorem flushFails_afterWrite (s : Sink) (content : List UInt8) :
    (s.afterWrite content).flushFails = s.flushFails := rfl

end Sink

/-- The sinks of all streams. The standard error takes everything, so nothing of the log is lost. -/
structure Sinks where
  out : Sink := {}
  listing : Sink := {}
  diagnostics : Sink := {}
  terminal : Sink := {}
  stdout : Sink := {}
  /-- The width of the window behind the standard error. -/
  stderrWidth : Option Nat := none
  deriving DecidableEq, Repr

namespace Sinks

/-- The sink of a stream. -/
def get (s : Sinks) : Stream → Sink
  | .out => s.out
  | .listing => s.listing
  | .diagnostics => s.diagnostics
  | .terminal => s.terminal
  | .stdout => s.stdout
  | .stderr => { width := s.stderrWidth }

/-- Another sink for a stream. The standard error keeps its own. -/
def set (s : Sinks) (stream : Stream) (sink : Sink) : Sinks :=
  match stream with
  | .out => { s with out := sink }
  | .listing => { s with listing := sink }
  | .diagnostics => { s with diagnostics := sink }
  | .terminal => { s with terminal := sink }
  | .stdout => { s with stdout := sink }
  | .stderr => s

theorem get_set_of_ne {stream other : Stream} (h : other ≠ stream) (s : Sinks) (sink : Sink) :
    (s.set stream sink).get other = s.get other := by
  cases stream <;> cases other <;> simp_all [set, get]

end Sinks

end ProgressActions
