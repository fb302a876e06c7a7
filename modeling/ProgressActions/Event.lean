import ProgressActions.Action
import ProgressActions.Duration
import ProgressActions.Stream
import ProgressActions.Template.Labels

/-!
# Events

Everything that an engine does to its surroundings is an event: what it writes, how it treats the
terminal, how it passes time, and what it asks of its host.
-/

namespace ProgressActions

/-- One thing that happened. -/
inductive Event where
  /-- Bytes that a sink stored. -/
  | write (stream : Stream) (content : List UInt8)
  /-- A flush, whether it failed or not. -/
  | flush (stream : Stream)
  /-- An attempt to open the terminal. -/
  | openTerminal (opened : Bool)
  /-- The open terminal was let go. -/
  | closeTerminal
  | sleep (time : Duration)
  | block (signals : List Signal)
  | wait (signals : List Signal)
  /-- The host was asked for the time that has passed. -/
  | askElapsed
  /-- The host was asked for a line of totals. -/
  | askTotals (labels : Template.Labels) (separator : Char)
  /-- The host was asked to print its totals. -/
  | printTotals
  /-- The host was asked to run a command. -/
  | exec (command archive : String) (checkpoint : Nat)
  /-- The host was told about an error. -/
  | reportError (message : String)
  deriving DecidableEq, Repr

namespace Event

/-- The bytes that an event stores on a stream. -/
def contentOn (stream : Stream) : Event → List UInt8
  | write s content => if s = stream then content else []
  | _ => []

/-- All bytes that were stored on a stream. -/
def contents (stream : Stream) (events : List Event) : List UInt8 :=
  events.flatMap (contentOn stream)

/-- Whether an event is a call on the host. -/
def isHostCall : Event → Bool
  | askElapsed => true
  | askTotals _ _ => true
  | printTotals => true
  | exec _ _ _ => true
  | reportError _ => true
  | _ => false

/-- Neighbouring writes to one stream joined into one; a write of nothing is no event. -/
def joined : List Event → List Event
  | [] => []
  | write s content :: rest =>
    if content = [] then joined rest
    else
      match joined rest with
      | write t more :: later =>
        if s = t then write s (content ++ more) :: later else write s content :: write t more :: later
      | later => write s content :: later
  | event :: rest => event :: joined rest

@[simp] theorem contents_nil (stream : Stream) : contents stream [] = [] := rfl

@[simp] theorem contents_append (stream : Stream) (first second : List Event) :
    contents stream (first ++ second) = contents stream first ++ contents stream second := by
  simp [contents]

/-- Joining keeps what was stored on each stream. -/
theorem contents_joined (stream : Stream) (events : List Event) :
    contents stream (joined events) = contents stream events := by
  fun_induction joined events with
  | case1 => rfl
  | case2 => simp_all [contents, contentOn]
  | case3 content rest _ t more later hjoined ih =>
    have hrest : contents stream rest = contentOn stream (write t more) ++ contents stream later := by
      rw [← ih, hjoined]
      rfl
    change contentOn stream (write t (content ++ more)) ++ contents stream later =
      contentOn stream (write t content) ++ contents stream rest
    rw [hrest]
    simp only [contentOn]
    split <;> simp
  | case4 => simp_all [contents, contentOn]
  | case5 => simp_all [contents, contentOn]
  | case6 => simp_all [contents]

end Event

end ProgressActions
