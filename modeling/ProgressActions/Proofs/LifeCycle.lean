import ProgressActions.Proofs.Call

/-!
# The life cycle of an engine

An engine passes through three stages. It is idle until an action is compiled, then it collects
actions, and once its program is complete it works. Completing an engine without actions leaves it
idle for good if no interval was asked for, and otherwise sets it to work on the bare echo.

Each stage fixes what the parts of the engine may be. That a call keeps to the stages is shown turn
by turn; the law of the life cycle, which speaks about each part by itself, is read off the stages.
-/

namespace ProgressActions

/-- The interval at which an engine works that was given one. -/
def settledInterval (given : Nat) : Nat := if 0 < given then given else defaultInterval

theorem settledInterval_ne_zero (given : Nat) : settledInterval given ≠ 0 := by
  unfold settledInterval
  split
  · omega
  · decide

namespace Signal.Mask

/-- The mask holds the signals that a program waits for. -/
def Collects (m : Mask) (program : List Action) : Prop :=
  ∀ signal, m.contains signal = true ↔ .wait signal ∈ program

/-- Without a program there is no signal to collect. -/
theorem collects_empty : empty.Collects [] := by
  intro signal
  simp

/-- To block the signals does not change which of them are collected. -/
theorem Collects.block {m : Mask} {program : List Action} (h : m.Collects program) :
    m.block.Collects program := h

end Signal.Mask

namespace Engine

theorem start_eq (e : Engine) :
    e.start =
      { e with
        phase := .running
        signals := e.signals.block
        interval := settledInterval e.interval } := by
  unfold start settledInterval
  rcases Nat.eq_zero_or_pos e.interval with hzero | hpos
  · simp [hzero]
  · simp [hpos, Nat.ne_of_gt hpos]

/-- A new action adds the signal it awaits, if it awaits one. -/
theorem collects_append {e : Engine} (h : e.signals.Collects e.program) (action : Action) :
    (e.append action).signals.Collects (e.append action).program := by
  intro signal
  have hbefore := h signal
  rw [program_append, List.mem_append, List.mem_singleton, ← hbefore]
  cases action with
  | wait awaited => simp [append, Action.awaited?]
  | _ => simp [append, Action.awaited?]

theorem blocked_append (e : Engine) (action : Action) :
    (e.append action).signals.blocked = e.signals.blocked := by
  cases action with
  | wait awaited => exact Signal.Mask.blocked_add e.signals awaited
  | _ => rfl

/-! ## The stages -/

/-- The stages of an engine that was given an interval. -/
inductive Stage (given : Nat) : Engine → Prop where
  /-- No action is compiled. The engine may be complete if no interval was asked for. -/
  | idle (console : Console) (isSealed : Bool) (hsealed : isSealed = true → given = 0) :
      Stage given { isSealed, interval := given, console }
  | collecting (console : Console) (program : List Action) (signals : Signal.Mask)
      (hprogram : program ≠ []) (hblocked : signals.blocked = false)
      (hsignals : signals.Collects program) :
      Stage given { phase := .compiling, interval := given, program, signals, console }
  | working (console : Console) (program : List Action) (signals : Signal.Mask) (ticks : Nat)
      (slot : TerminalSlot) (isDirty : Bool)
      (hprogram : program ≠ []) (hblocked : signals.blocked = true)
      (hsignals : signals.Collects program)
      (hslot : slot ≠ .unopened → ∃ action ∈ program, action.usesTerminal = true)
      (hdirty : isDirty = true → ∃ action ∈ program, action.isTtyText = true) :
      Stage given
        { phase := .running, isSealed := true, interval := settledInterval given
          program, signals, ticks, console, slot, isDirty }

/-- An engine with a program starts in the last stage. -/
theorem Stage.start_complete {given : Nat} {console : Console} {program : List Action}
    {signals : Signal.Mask} (hprogram : program ≠ []) (hsignals : signals.Collects program) :
    Stage given (start { phase := .compiling, interval := given, program, signals, console }).complete := by
  rw [start_eq]
  exact .working _ _ _ _ _ _ hprogram rfl hsignals.block
    (fun hslot ↦ absurd rfl hslot) fun hdirty ↦ absurd hdirty Bool.false_ne_true

/-- No turn leaves the stages. -/
theorem Stage.turn {given : Nat} {before after : Engine} (hstage : Stage given before)
    (hturn : before.Turn after) : Stage given after := by
  cases hstage with
  | idle console isSealed hsealed =>
    cases hturn with
    | stay => exact .idle console isSealed hsealed
    | append action hopen =>
      obtain rfl : isSealed = false := hopen
      exact .collecting console [action] _ (by simp) (blocked_append _ action)
        (collects_append (e := { interval := given, console }) Signal.Mask.collects_empty action)
    | complete hphase hprogram =>
      refine .idle console true fun _ ↦ ?_
      simpa [lacksProgram] using hprogram
    | start hphase => cases hphase
    | supply hopen hprogram =>
      obtain rfl : isSealed = false := hopen
      exact Stage.start_complete (by simp)
        (collects_append (e := { interval := given, console }) Signal.Mask.collects_empty .echo)
    | tick slot isDirty _ henabled => cases henabled
    | release => exact .idle console isSealed hsealed
    | surround terminal => exact .idle _ isSealed hsealed
  | collecting console program signals hprogram hblocked hsignals =>
    cases hturn with
    | stay => exact .collecting console program signals hprogram hblocked hsignals
    | append action =>
      exact .collecting console _ _ (by simp) ((blocked_append _ action).trans hblocked)
        (collects_append
          (e := { phase := .compiling, interval := given, program, signals, console })
          hsignals action)
    | complete hphase => exact absurd rfl hphase
    | start => exact Stage.start_complete hprogram hsignals
    | supply _ hlacks => cases hlacks
    | tick slot isDirty hsealed => cases hsealed
    | release => exact .collecting console program signals hprogram hblocked hsignals
    | surround terminal => exact .collecting _ program signals hprogram hblocked hsignals
  | working console program signals ticks slot isDirty hprogram hblocked hsignals hslot hdirty =>
    cases hturn with
    | stay =>
      exact .working console program signals ticks slot isDirty hprogram hblocked hsignals hslot
        hdirty
    | append action hopen => cases hopen
    | complete =>
      exact .working console program signals ticks slot isDirty hprogram hblocked hsignals hslot
        hdirty
    | start hphase => cases hphase
    | supply hopen => cases hopen
    | tick newSlot isNowDirty _ _ hnewSlot hnewDirty =>
      exact .working console program signals _ newSlot isNowDirty hprogram hblocked hsignals
        (fun h ↦ (hnewSlot h).elim hslot id) fun h ↦ (hnewDirty h).elim hdirty id
    | release =>
      exact .working console program signals ticks _ isDirty hprogram hblocked hsignals
        (fun h ↦ absurd rfl h) hdirty
    | surround terminal =>
      exact .working _ program signals ticks slot isDirty hprogram hblocked hsignals hslot hdirty

/-! ## The law -/

/-- What holds between the parts of an engine that was given an interval, at every moment. -/
structure LifeCycle (given : Nat) (e : Engine) : Prop where
  running_iff_blocked : e.phase = .running ↔ e.signals.blocked = true
  running_iff_isSealed : e.phase = .running ↔ e.isSealed = true ∧ e.program ≠ []
  interval_of_running : e.phase = .running → e.interval = settledInterval given ∧ e.interval ≠ 0
  compiling_iff : e.phase = .compiling ↔ e.program ≠ [] ∧ e.isSealed = false
  of_uninitialized : e.phase = .uninitialized →
    e.program = [] ∧ e.signals = .empty ∧ (e.isSealed = true → e.interval = 0)
  of_not_running : e.phase ≠ .running → e.ticks = 0 ∧ e.slot = .unopened ∧ e.isDirty = false
  contains_iff : ∀ signal, e.signals.contains signal = true ↔ .wait signal ∈ e.program
  of_slot : e.slot ≠ .unopened → .bell ∈ e.program ∨ ∃ template, .ttyText template ∈ e.program
  of_isDirty : e.isDirty = true → ∃ template, .ttyText template ∈ e.program

namespace LifeCycle

variable {given : Nat} {e : Engine}

/-- An engine that still takes specs is not at work. -/
theorem not_running_of_open (h : e.LifeCycle given) (hopen : e.isSealed = false) :
    e.phase ≠ .running := by
  intro hrunning
  rw [(h.running_iff_isSealed.1 hrunning).1] at hopen
  cases hopen

/-- A complete engine that does not run has no program. -/
theorem uninitialized_of_isSealed (h : e.LifeCycle given) (hsealed : e.isSealed = true)
    (hidle : e.phase ≠ .running) : e.phase = .uninitialized := by
  cases hphase : e.phase with
  | uninitialized => rfl
  | compiling =>
    have hopen := (h.compiling_iff.1 hphase).2
    rw [hsealed] at hopen
    cases hopen
  | running => exact absurd hphase hidle

end LifeCycle

theorem exists_ttyText {program : List Action}
    (h : ∃ action ∈ program, action.isTtyText = true) : ∃ template, .ttyText template ∈ program := by
  obtain ⟨action, hmem, htext⟩ := h
  cases action with
  | ttyText template => exact ⟨template, hmem⟩
  | _ => cases htext

theorem bell_or_exists_ttyText {program : List Action}
    (h : ∃ action ∈ program, action.usesTerminal = true) :
    .bell ∈ program ∨ ∃ template, .ttyText template ∈ program := by
  obtain ⟨action, hmem, huses⟩ := h
  cases action with
  | bell => exact .inl hmem
  | ttyText template => exact .inr ⟨template, hmem⟩
  | _ => cases huses

/-- The law of the life cycle holds at every stage. -/
theorem Stage.lifeCycle {given : Nat} {e : Engine} (h : Stage given e) : LifeCycle given e := by
  cases h with
  | idle console isSealed hsealed =>
    constructor <;> simp_all [Signal.Mask.empty, Signal.Mask.contains]
  | collecting console program signals hprogram hblocked hsignals =>
    constructor <;> simp_all
    exact hsignals
  | working console program signals ticks slot isDirty hprogram hblocked hsignals hslot hdirty =>
    exact
      { running_iff_blocked := by simp [hblocked]
        running_iff_isSealed := by simp [hprogram]
        interval_of_running := fun _ ↦ ⟨rfl, settledInterval_ne_zero given⟩
        compiling_iff := by simp
        of_uninitialized := by simp
        of_not_running := by simp
        contains_iff := hsignals
        of_slot := fun h ↦ bell_or_exists_ttyText (hslot h)
        of_isDirty := fun h ↦ exists_ttyText (hdirty h) }

end Engine

namespace Session

variable {σ : Type} [Host σ]

/-- Every row of calls keeps an engine in its stages. -/
theorem stage_steps {given : Nat} {s : Session σ} (h : s.engine.Stage given)
    (calls : List (Call σ)) : (s.steps calls).engine.Stage given := by
  induction calls generalizing s with
  | nil => exact h
  | cons call rest ih => exact ih (h.turn (turn_next s call))

/-- Whatever is called, a fresh engine goes from stage to stage. -/
theorem stage_steps_fresh (given : Nat) (console : Console) (world : World) (host : σ)
    (calls : List (Call σ)) :
    ((fresh given console world host).steps calls).engine.Stage given :=
  stage_steps (.idle console false (by simp)) calls

/-- The law of the life cycle holds after every row of calls on a fresh engine. -/
theorem lifeCycle_steps_fresh (given : Nat) (console : Console) (world : World) (host : σ)
    (calls : List (Call σ)) :
    ((fresh given console world host).steps calls).engine.LifeCycle given :=
  (stage_steps_fresh given console world host calls).lifeCycle

end Session

end ProgressActions
