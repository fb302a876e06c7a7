import ProgressActions.Stream
import ProgressActions.Text.Blank
import ProgressActions.Text.Numeral

/-!
# The terminal

The width of a window, and the lazily opened controlling terminal.
-/

namespace ProgressActions

/-- The width that is assumed when nothing better is known. -/
def defaultWidth : Nat := 80

/-- A positive width that an environment variable claims; blanks around it do not count. -/
def claimedWidth? (columns : String) : Option Nat :=
  (Text.word? (Text.trim columns.toList)).filter (0 < ·)

/-- The width of a window: as probed, else as claimed, else as assumed. A width of zero is none. -/
def resolveWidth (probed : Option Nat) (columns : Option String) : Nat :=
  match probed.filter (0 < ·) with
  | some width => width
  | none => (columns.bind claimedWidth?).getD defaultWidth

theorem resolveWidth_pos (probed : Option Nat) (columns : Option String) :
    0 < resolveWidth probed columns := by
  unfold resolveWidth
  split
  · rename_i width h
    simpa using (Option.filter_eq_some_iff.1 h).2
  · cases hc : columns.bind claimedWidth? with
    | none => decide
    | some width =>
      obtain ⟨text, _, hclaim⟩ := Option.bind_eq_some_iff.1 hc
      simpa using (Option.filter_eq_some_iff.1 hclaim).2

/-- The controlling terminal as an engine holds it. -/
inductive TerminalSlot where
  | unopened
  | opened
  /-- Opening has failed and is not tried again. -/
  | unavailable
  deriving DecidableEq, Repr

/-- The streams of an engine, and what comes of an attempt to open the terminal. -/
structure Console where
  listing : Stream
  diagnostics : Stream
  /-- The sink of a newly opened terminal, or the reason why it cannot be opened. -/
  terminal : Except String Sink

end ProgressActions
