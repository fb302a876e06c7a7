import ProgressActions.Proofs.TerminalConduct

/-!
# The release of the terminal

What the end of a run does is settled beforehand: how often the line is overwritten, how many bytes
of each attempt the terminal stores, which attempts are followed by a flush, and what is logged about
those that fail. An attempt that fails keeps neither the later ones nor the closing of the terminal
from happening. Apart from the trace and the room behind the terminal nothing changes but the slot,
which is as it was before the terminal was ever tried; so a second end of the run finds nothing to
do.
-/

namespace ProgressActions

open Template

/-! ## One attempt -/

namespace Sink

/-- The sink once a number of bytes have been written. -/
def drained (bytes : Nat) (s : Sink) : Sink := { s with room := s.room.map (· - bytes) }

theorem drained_zero (s : Sink) : s.drained 0 = s := by
  obtain ⟨width, room, flushFails⟩ := s
  cases room <;> rfl

theorem drained_drained (first second : Nat) (s : Sink) :
    (s.drained first).drained second = s.drained (first + second) := by
  obtain ⟨width, room, flushFails⟩ := s
  cases room with
  | none => rfl
  | some n => simp [drained, Nat.sub_sub]

/-- Why bytes cannot be written and flushed, if they cannot. -/
def refusal? (content : List UInt8) (s : Sink) : Option Failure :=
  if s.fits content then if s.flushFails then some .flushFailed else none else some .sinkFull

/-- What comes of an attempt to write bytes to the terminal and to flush it. The flush is tried only
if all bytes are stored. -/
def putLog (content : List UInt8) (s : Sink) : List Event :=
  (if s.stored content = [] then [] else [.write .terminal (s.stored content)]) ++
    if s.fits content then [.flush .terminal] else []

end Sink

namespace World

/-- Adds a row of events to the trace. -/
def recordAll (log : List Event) (w : World) : World := { w with trace := w.trace ++ log.toArray }

def withTerminal (sink : Sink) (w : World) : World :=
  { w with sinks := w.sinks.set .terminal sink }

theorem recordAll_nil (w : World) : w.recordAll [] = w := by
  simp [recordAll]

theorem record_eq (event : Event) (w : World) : w.record event = w.recordAll [event] := by
  simp [record, recordAll]

theorem recordAll_recordAll (first second : List Event) (w : World) :
    (w.recordAll first).recordAll second = w.recordAll (first ++ second) := by
  simp [recordAll, Array.append_assoc]

@[simp] theorem events_recordAll (log : List Event) (w : World) :
    (w.recordAll log).events = w.events ++ log := by
  simp [recordAll, events]

/-- What a debug message adds to the trace. -/
def debugLog (verbose : Bool) (moduleName message : String) : List Event :=
  if verbose then [.write .stderr (Text.bytes (Log.line moduleName message))] else []

theorem debug_eq (moduleName message : String) (w : World) :
    w.debug moduleName message = w.recordAll (debugLog w.verbose moduleName message) := by
  unfold debug debugLog
  split
  · rw [log_eq, record_eq]
  · rw [recordAll_nil]

theorem write_terminal (content : List UInt8) (w : World) :
    let sink := w.sinks.get .terminal
    w.write .terminal content =
      (sink.fits content,
        (w.withTerminal (sink.drained content.length)).recordAll
          (if sink.stored content = [] then [] else [.write .terminal (sink.stored content)])) := by
  intro sink
  refine Prod.ext rfl ?_
  unfold write
  dsimp only
  split
  · exact (recordAll_nil _).symm
  · exact record_eq _ _

end World

/-- What an attempt to overwrite the line adds to the trace, on a terminal with a sink. -/
def Sink.attemptLog (verbose : Bool) (blank : List UInt8) (s : Sink) : List Event :=
  s.putLog blank ++
    match s.refusal? blank with
    | some cause =>
      World.debugLog verbose Session.engineModule ("failed to clear terminal line: " ++ cause.message)
    | none => []

variable {σ : Type}

namespace Act

/-- Bytes are put on the terminal as its sink allows. -/
theorem run_put_terminal (text : List Char) (s : Scene σ) :
    let sink := s.world.sinks.get .terminal
    let content := Text.bytes text
    (put .terminal text).run.run s =
      (match sink.refusal? content with
        | some cause => .error (.failure cause)
        | none => .ok (),
        { s with
          world := (s.world.withTerminal (sink.drained content.length)).recordAll
            (sink.putLog content) }) := by
  intro sink content
  unfold put Sink.putLog Sink.refusal?
  rw [run_bind, run_write, s.world.write_terminal]
  dsimp only
  cases sink.fits content with
  | false =>
    rw [if_neg Bool.false_ne_true, if_neg Bool.false_ne_true, if_neg Bool.false_ne_true,
      List.append_nil]
  | true =>
    rw [if_pos rfl, if_pos rfl, if_pos rfl, ← World.recordAll_recordAll, ← World.record_eq]
    dsimp only
    rw [run_flush]
    refine Prod.ext ?_ rfl
    change (if (!sink.flushFails) = true then Except.ok () else _) = _
    cases sink.flushFails <;> rfl

theorem run_clearLine_of_fits {s : Scene σ} (h : s.world.window .terminal ≤ maxPadding) :
    let sink := s.world.sinks.get .terminal
    clearLine.run.run s =
      (match sink.refusal? s.world.blank with
        | some cause => .error (.failure cause)
        | none => .ok (),
        { s with
          world := (s.world.withTerminal (sink.drained s.world.blank.length)).recordAll
            (sink.putLog s.world.blank) }) := by
  unfold World.window at h
  unfold clearLine
  rw [run_bind, run_width]
  dsimp only
  rw [if_neg (Nat.not_lt.2 h)]
  exact run_put_terminal _ s

end Act

/-! ## All attempts -/

/-- What a number of attempts add to the trace. Each finds less room than the one before. -/
def Sink.attemptsLog (verbose : Bool) (blank : List UInt8) (times : Nat) (s : Sink) : List Event :=
  (List.range times).flatMap fun i ↦ (s.drained (i * blank.length)).attemptLog verbose blank

/-- Attempts follow upon one another. -/
theorem Sink.attemptsLog_add (verbose : Bool) (blank : List UInt8) (first second : Nat) (s : Sink) :
    s.attemptsLog verbose blank (first + second) =
      s.attemptsLog verbose blank first ++
        (s.drained (first * blank.length)).attemptsLog verbose blank second := by
  have hlater (i : Nat) : (s.drained (first * blank.length)).drained (i * blank.length) =
      s.drained ((first + i) * blank.length) := by
    rw [drained_drained, Nat.add_mul]
  unfold attemptsLog
  rw [List.range_add, List.flatMap_append, List.flatMap_map]
  simp only [hlater]

namespace World

/-- The world after a number of attempts to overwrite the line. -/
def attempted (times : Nat) (w : World) : World :=
  let sink := w.sinks.get .terminal
  (w.withTerminal (sink.drained (times * w.blank.length))).recordAll
    (sink.attemptsLog w.verbose w.blank times)

theorem attempted_zero (w : World) : w.attempted 0 = w := by
  unfold attempted
  dsimp only
  rw [Nat.zero_mul, Sink.drained_zero]
  exact recordAll_nil w

/-- A single attempt puts the bytes on the terminal, and logs why they cannot be put there. -/
theorem attempted_one (w : World) :
    let sink := w.sinks.get .terminal
    let put := (w.withTerminal (sink.drained w.blank.length)).recordAll (sink.putLog w.blank)
    w.attempted 1 =
      match sink.refusal? w.blank with
      | some cause =>
        put.debug Session.engineModule ("failed to clear terminal line: " ++ cause.message)
      | none => put := by
  intro sink put
  have hsingle : w.attempted 1 = (w.withTerminal (sink.drained w.blank.length)).recordAll
      (sink.attemptLog w.verbose w.blank) := by
    unfold attempted Sink.attemptsLog
    dsimp only
    rw [Nat.one_mul, List.range_one, List.flatMap_singleton, Nat.zero_mul, Sink.drained_zero]
  rw [hsingle, Sink.attemptLog, ← recordAll_recordAll]
  cases sink.refusal? w.blank with
  | none => exact recordAll_nil put
  | some cause => exact (debug_eq _ _ put).symm

theorem attempted_add (first second : Nat) (w : World) :
    w.attempted (first + second) = (w.attempted first).attempted second := by
  let sink := w.sinks.get .terminal
  let later := sink.drained (first * w.blank.length)
  have hroom : sink.drained ((first + second) * w.blank.length) =
      later.drained (second * w.blank.length) := by
    rw [Sink.drained_drained, Nat.add_mul]
  calc
    w.attempted (first + second) =
        (w.withTerminal (later.drained (second * w.blank.length))).recordAll
          (sink.attemptsLog w.verbose w.blank first ++
            later.attemptsLog w.verbose w.blank second) := by
      rw [← hroom, ← Sink.attemptsLog_add]
      rfl
    _ = (w.attempted first).attempted second := by
      rw [← recordAll_recordAll]
      rfl

end World

/-! ## The end of a run -/

namespace Session

/-- To blank the line is one attempt and always succeeds. -/
theorem clearLine_eq {s : Session σ} (h : s.world.window .terminal ≤ maxPadding) :
    s.clearLine = (.ok (), s.onWorld (World.attempted 1)) := by
  have hrun := Act.run_clearLine_of_fits (s := s.scene) h
  have hworld := s.world.attempted_one
  unfold clearLine attempt onWorld
  rw [hrun, hworld]
  dsimp only [scene]
  cases (s.world.sinks.get .terminal).refusal? s.world.blank <;> rfl

theorem clearLines_zero (s : Session σ) : s.clearLines 0 = (.ok (), s) := rfl

theorem onWorld_attempted_zero (s : Session σ) : s.onWorld (World.attempted 0) = s := by
  unfold onWorld
  rw [World.attempted_zero]

theorem clearLines_eq (times : Nat) {s : Session σ} (h : s.world.window .terminal ≤ maxPadding) :
    s.clearLines times = (.ok (), s.onWorld (World.attempted times)) := by
  induction times generalizing s with
  | zero => rw [clearLines_zero, onWorld_attempted_zero]
  | succ times ih =>
    have hnext : (s.onWorld (World.attempted 1)).world.window .terminal ≤ maxPadding := h
    rw [clearLines, clearLine_eq h]
    dsimp only
    rw [ih hnext, Nat.add_comm times 1]
    unfold onWorld
    dsimp only
    rw [World.attempted_add]

/-- What is done to let a terminal go. -/
def closingLog (slot : TerminalSlot) : List Event :=
  if slot = .opened then [.flush .terminal, .closeTerminal] else []

/-- To close the terminal changes the slot and adds two events. -/
theorem closeTerminal_eq (s : Session σ) :
    s.closeTerminal =
      { s with
        engine := { s.engine with slot := .unopened }
        world := s.world.recordAll (closingLog s.engine.slot) } := by
  have hopen : (s.world.flush .terminal).2.record .closeTerminal =
      s.world.recordAll [.flush .terminal, .closeTerminal] := by
    rw [World.record_eq, World.flush, World.record_eq, World.recordAll_recordAll]
    rfl
  have hother : s.world = s.world.recordAll [] := s.world.recordAll_nil.symm
  unfold closeTerminal
  cases hslot : s.engine.slot with
  | opened => exact congrArg (fun world ↦ Session.mk _ world s.host) hopen
  | _ => exact congrArg (fun world ↦ Session.mk _ world s.host) hother

/-- All lines that are pending are tried, unless they are too wide. -/
theorem clearLines_pending_eq {s : Session σ} (h : ¬ s.Overwide) :
    s.clearLines (pendingClears s.engine) =
      (.ok (), s.onWorld (World.attempted (pendingClears s.engine))) := by
  by_cases hpending : s.engine.isDirty = true ∧ s.engine.slot = .opened
  · have hfits : s.world.window .terminal ≤ maxPadding :=
      Nat.not_lt.1 fun hwide ↦ h ⟨hpending.2, hpending.1, hwide⟩
    exact clearLines_eq _ hfits
  · have hnone : pendingClears s.engine = 0 := if_neg hpending
    rw [hnone, clearLines_zero, onWorld_attempted_zero]

/-- What the end of a run adds to the trace. -/
def releaseLog (s : Session σ) : List Event :=
  (s.world.sinks.get .terminal).attemptsLog s.world.verbose s.world.blank (pendingClears s.engine) ++
    closingLog s.engine.slot

/-- The session after the end of a run: the line has been tried as often as was pending, and the
terminal is let go. -/
def released (s : Session σ) : Session σ :=
  { s with
    engine := { s.engine with slot := .unopened }
    world := (s.world.attempted (pendingClears s.engine)).recordAll (closingLog s.engine.slot) }

theorem events_released (s : Session σ) :
    s.released.world.events = s.world.events ++ s.releaseLog := by
  unfold released releaseLog World.attempted
  dsimp only
  rw [World.events_recordAll, World.events_recordAll, List.append_assoc]
  rfl

/-- A terminal that is not open is not released. -/
theorem released_of_unopened {s : Session σ} (h : s.engine.slot = .unopened) : s.released = s := by
  have hengine : { s.engine with slot := .unopened } = s.engine := by rw [← h]
  have hnone : pendingClears s.engine = 0 := if_neg fun hboth ↦ by simp [h] at hboth
  unfold released
  rw [hengine, hnone, h, World.attempted_zero]
  exact congrArg (fun world ↦ Session.mk s.engine world s.host) s.world.recordAll_nil

/-- Unless a line is too wide, the end of a run is the release. -/
theorem finish_eq_released {given : Nat} {s : Session σ} (hlaw : s.engine.LifeCycle given)
    (h : ¬ s.Overwide) : s.finish = (.ok (), s.released) := by
  unfold finish
  by_cases hidle : s.engine.interval = 0
  · have hphase : s.engine.phase ≠ .running := fun h ↦ (hlaw.interval_of_running h).2 hidle
    rw [if_pos hidle, released_of_unopened (hlaw.of_not_running hphase).2.1]
  · rw [if_neg hidle, clearLines_pending_eq h]
    dsimp only
    rw [closeTerminal_eq]
    rfl

/-- An end of the run that finds the terminal untried has nothing to do. -/
theorem finish_of_unopened {given : Nat} {s : Session σ} (hlaw : s.engine.LifeCycle given)
    (h : s.engine.slot = .unopened) : s.finish = (.ok (), s) := by
  have hnarrow : ¬ s.Overwide := by
    intro hwide
    have hopened := hwide.slot
    rw [h] at hopened
    cases hopened
  rw [finish_eq_released hlaw hnarrow, released_of_unopened h]

end Session

/-! ## The law -/

namespace Event

/-- Whether an event has to do with the release of the terminal: it is output there, its closing, or
a line of the log. -/
def isRelease : Event → Bool
  | write stream _ => stream == .terminal || stream == .stderr
  | flush stream => stream == .terminal
  | closeTerminal => true
  | _ => false

end Event

theorem Sink.all_isRelease_attemptLog (verbose : Bool) (blank : List UInt8) (s : Sink) :
    (s.attemptLog verbose blank).all Event.isRelease = true := by
  have hput : (s.putLog blank).all Event.isRelease = true := by
    unfold putLog
    split <;> split <;> rfl
  have hdebug (message : String) :
      (World.debugLog verbose Session.engineModule message).all Event.isRelease = true := by
    unfold World.debugLog
    split <;> rfl
  unfold attemptLog
  rw [List.all_append, hput, Bool.true_and]
  cases s.refusal? blank with
  | none => rfl
  | some cause => exact hdebug _

/-- A release only blanks, flushes, closes and notes. -/
theorem Session.isRelease_of_mem_releaseLog {s : Session σ} {event : Event}
    (h : event ∈ s.releaseLog) : event.isRelease = true := by
  obtain hattempt | hclosing := List.mem_append.1 h
  · obtain ⟨i, -, hmem⟩ := List.mem_flatMap.1 hattempt
    exact List.all_eq_true.1 (Sink.all_isRelease_attemptLog _ _ _) event hmem
  · unfold closingLog at hclosing
    split at hclosing
    · obtain rfl | rfl : event = .flush .terminal ∨ event = .closeTerminal := by
        simpa using hclosing
      · rfl
      · rfl
    · cases hclosing

namespace Session

/-- The law of the end of a run. -/
structure ReleaseLaw (s : Session σ) : Prop where
  /-- Without an interval nothing is done. -/
  idle : s.engine.interval = 0 → s.finish = (.ok (), s)
  /-- The engine changes in its slot only, the world in its trace and the room behind the terminal,
  and the host not at all. -/
  whole : s.finish = (.ok (), s.released)
  /-- The trace grows by the attempts that are pending, and by the closing of an open terminal. -/
  events : s.finish.2.world.events = s.world.events ++ s.releaseLog
  /-- Nothing is rendered or opened, and no other stream of the engine is touched. -/
  quiet : ∀ event ∈ s.releaseLog, event.isRelease = true
  /-- The terminal is as it was before it was ever tried. -/
  slot : s.finish.2.engine.slot = .unopened
  /-- A second end of the run does nothing. -/
  again : s.finish.2.finish = (.ok (), s.finish.2)

variable [Host σ]

/-- The law of the end of a run holds after every row of calls on a fresh engine, unless a line has to
be blanked in a window that is too wide for that. -/
theorem releaseLaw_steps_fresh (given : Nat) (console : Console) (world : World) (host : σ)
    (calls : List (Call σ))
    (hnarrow : ¬ ((fresh given console world host).steps calls).Overwide) :
    ((fresh given console world host).steps calls).ReleaseLaw := by
  have hstage := stage_steps_fresh given console world host calls
  have hfinish := finish_eq_released hstage.lifeCycle hnarrow
  have hreleased : (((fresh given console world host).steps calls).released.engine).Stage given :=
    hstage.turn .release
  refine
    { idle := finish_of_interval_eq_zero
      whole := hfinish
      events := by rw [hfinish, events_released]
      quiet := fun event ↦ isRelease_of_mem_releaseLog
      slot := by rw [hfinish]; rfl
      again := ?_ }
  rw [hfinish]
  exact finish_of_unopened hreleased.lifeCycle rfl

/-- A terminal with room for six bytes takes two short lines and half of the first attempt to overwrite
them. Both attempts fail, each is logged, and the terminal is closed all the same. -/
theorem events_finish_of_full_terminal :
    let first := fresh 1 ⟨.listing, .diagnostics, .ok { width := some 3, room := some 6 }⟩
      { verbose := true } ({} : ScriptedHost)
    let s := first.steps
      [.compile "ttyout=a\r", .compile "ttyout=b\r", .finishCompile, .tick true]
    let complaint : Event := .write .stderr
      (Text.bytes (Log.line "checkpoint" "failed to clear terminal line: sink full"))
    s.finish.2.world.events = s.world.events ++
      [.write .terminal (Text.bytes [' ', ' ']), complaint, complaint, .flush .terminal,
        .closeTerminal] := by
  intro first s complaint
  have hlaw := releaseLaw_steps_fresh 1
    ⟨.listing, .diagnostics, .ok { width := some 3, room := some 6 }⟩ { verbose := true }
    ({} : ScriptedHost)
    [.compile "ttyout=a\r", .compile "ttyout=b\r", .finishCompile, .tick true]
    fun hwide ↦ absurd hwide.window (by decide +kernel)
  have hlog : s.releaseLog = [.write .terminal (Text.bytes [' ', ' ']), complaint, complaint,
      .flush .terminal, .closeTerminal] := by
    decide +kernel
  rw [← hlog]
  exact hlaw.events

end Session

end ProgressActions
