import ProgressActions.Engine.Session

/-!
# The end of a run

At the end the line that templates have left on the terminal is blanked, once for each action that
renders there, and the terminal is let go.
-/

namespace ProgressActions

namespace Act

variable {σ : Type}

/-- Overwrites the line on the terminal with blanks and goes back to its first column. -/
def clearLine : Act σ Unit := do
  let columns ← width .terminal
  if Template.maxPadding < columns then throw .crash
  write .terminal (List.replicate columns ' ' ++ ['\r'])
  flush .terminal

end Act

namespace Session

variable {σ : Type}

/-- Clears the line once. A terminal that fails is logged. -/
def clearLine (s : Session σ) : Except Stop Unit × Session σ :=
  match s.attempt Act.clearLine with
  | (.ok (), next) => (.ok (), next)
  | (.error (.failure cause), next) =>
    (.ok (), next.debug ("failed to clear terminal line: " ++ cause.message))
  | (.error .crash, next) => (.error .crash, next)

/-- Clears the line a number of times. -/
def clearLines : (times : Nat) → Session σ → Except Stop Unit × Session σ
  | 0, s => (.ok (), s)
  | times + 1, s =>
    match s.clearLine with
    | (.ok (), next) => clearLines times next
    | stopped => stopped

/-- How often the line has to be cleared: once for each template of the program, if it is in use. -/
def pendingClears (e : Engine) : Nat :=
  if e.isDirty ∧ e.slot = .opened then e.program.countP Action.isTtyText else 0

/-- Restores the terminal and lets it go. An engine without an interval leaves everything alone. -/
def finish (s : Session σ) : Except Stop Unit × Session σ :=
  if s.engine.interval = 0 then (.ok (), s)
  else
    match s.clearLines (pendingClears s.engine) with
    | (.ok (), cleared) => (.ok (), cleared.closeTerminal)
    | stopped => stopped

theorem finish_of_interval_eq_zero {s : Session σ} (h : s.engine.interval = 0) :
    s.finish = (.ok (), s) := by
  simp [finish, h]

end Session

end ProgressActions
