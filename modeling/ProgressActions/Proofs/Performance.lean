import ProgressActions.Engine.Tick
import ProgressActions.Proofs.Activity

/-!
# A program at work

A program is carried out action by action. A failure is noted and the next action goes on from
there; only a fault ends the walk. So a walk without a fault passes through one session for each
action. An action leaves its mark on the engine only where the terminal is concerned: actions on
the terminal settle whether it can be had, and templates on it take note of carriage returns.
-/

namespace ProgressActions

/-- An engine with the same task as before, and as many ticks counted: at most its terminal is
another. -/
structure Engine.SameTask (before after : Engine) : Prop where
  phase : after.phase = before.phase
  isSealed : after.isSealed = before.isSealed
  interval : after.interval = before.interval
  program : after.program = before.program
  signals : after.signals = before.signals
  ticks : after.ticks = before.ticks

/-- An engine at the same work as before: at most the state of its terminal is different. -/
structure Engine.SameWork (before after : Engine) : Prop extends before.SameTask after where
  console : after.console = before.console

namespace Engine

theorem SameTask.refl (e : Engine) : e.SameTask e := ⟨rfl, rfl, rfl, rfl, rfl, rfl⟩

theorem SameTask.trans {e f g : Engine} (hfirst : e.SameTask f) (hsecond : f.SameTask g) :
    e.SameTask g where
  phase := hsecond.phase.trans hfirst.phase
  isSealed := hsecond.isSealed.trans hfirst.isSealed
  interval := hsecond.interval.trans hfirst.interval
  program := hsecond.program.trans hfirst.program
  signals := hsecond.signals.trans hfirst.signals
  ticks := hsecond.ticks.trans hfirst.ticks

theorem SameWork.refl (e : Engine) : e.SameWork e := ⟨.refl e, rfl⟩

theorem SameWork.trans {e f g : Engine} (hfirst : e.SameWork f) (hsecond : f.SameWork g) :
    e.SameWork g :=
  ⟨hfirst.toSameTask.trans hsecond.toSameTask, hsecond.console.trans hfirst.console⟩

/-- All that an action can change of an engine is the terminal. -/
theorem SameWork.eq_with_terminal {before after : Engine} (h : before.SameWork after) :
    after = { before with slot := after.slot, isDirty := after.isDirty } := by
  obtain ⟨⟨_, _, _, _, _, _⟩, _⟩ := h
  cases after
  simp_all

end Engine

/-! ## Activities of actions -/

namespace Act.Within

variable {σ : Type} [Host σ] {stream : Stream} {R : Scene σ → Scene σ → Prop}

theorem put (hR : Scene.Admits stream R) (text : List Char) : Within R (Act.put stream text) :=
  bind hR (write hR text) fun _ ↦ flush hR

theorem echo (hreturn : ∀ s : Scene σ, R s { s with lineReset := true })
    (hR : Scene.Admits stream R) (isWrite : Bool) (checkpoint : Nat) (template : Option String) :
    Within R (Act.echo stream isWrite checkpoint template) := by
  unfold Act.echo
  refine bind hR (get hR) fun s ↦ bind hR (write hR _) fun _ ↦ ?_
  cases template with
  | some text =>
    exact bind hR (pure hR _) fun _ ↦ bind hR (render hreturn hR _ _) fun _ ↦ put hR _
  | none =>
    exact bind hR (localized hR _) fun _ ↦ bind hR (render hreturn hR _ _) fun _ ↦ put hR _

theorem ttyText (hreturn : ∀ s : Scene σ, R s { s with lineReset := true })
    (hR : Scene.Admits .terminal R) (isWrite : Bool) (checkpoint : Nat) (template : String) :
    Within R (Act.ttyText isWrite checkpoint template) :=
  bind hR (render hreturn hR _ _) fun _ ↦ pure hR _

end Act.Within

/-- The state of a terminal once an action has asked for it. -/
def TerminalSlot.settle (console : Console) : TerminalSlot → TerminalSlot
  | unopened =>
    match console.terminal with
    | .ok _ => opened
    | .error _ => unavailable
  | slot => slot

namespace Session

variable {σ : Type}

/-! ## The terminal -/

@[simp] theorem engine_onWorld (f : World → World) (s : Session σ) :
    (s.onWorld f).engine = s.engine := rfl

@[simp] theorem host_onWorld (f : World → World) (s : Session σ) :
    (s.onWorld f).host = s.host := rfl

@[simp] theorem engine_debug (message : String) (s : Session σ) :
    (s.debug message).engine = s.engine := rfl

@[simp] theorem engine_attempt (activity : Act σ Unit) (s : Session σ) :
    (s.attempt activity).2.engine = s.engine := rfl

@[simp] theorem engine_openTerminal (s : Session σ) :
    s.openTerminal.engine = { s.engine with slot := s.engine.slot.settle s.engine.console } := by
  obtain ⟨e, world, host⟩ := s
  obtain ⟨phase, isSealed, interval, program, signals, ticks, console, slot, isDirty⟩ := e
  obtain ⟨_, _, terminal⟩ := console
  cases slot with
  | unopened => cases terminal <;> rfl
  | opened => rfl
  | unavailable => rfl

/-- An activity on the terminal changes nothing but the note of a carriage return. -/
theorem engine_attemptOnTerminal (activity : Act σ Unit) (s : Session σ) :
    (s.attemptOnTerminal activity).2.engine =
      { s.engine with
        isDirty := s.engine.isDirty || noticesReturn (activity.run.run s.scene) } := rfl

theorem noticesReturn_of_lineReset_eq_false {run : Except Interruption Unit × Scene σ}
    (h : run.2.lineReset = false) : noticesReturn run = false := by
  unfold noticesReturn
  split
  · rfl
  · exact h

/-- Unless it crashes, an activity is noted by the carriage return it has written. -/
theorem noticesReturn_of_ne_crash {run : Except Interruption Unit × Scene σ}
    (h : run.1 ≠ .error .crash) : noticesReturn run = run.2.lineReset := by
  unfold noticesReturn
  split
  · exact absurd rfl h
  · rfl

/-- Runs with the same outcome and the same flag take note of the same. -/
theorem noticesReturn_congr {run other : Except Interruption Unit × Scene σ}
    (houtcome : other.1 = run.1) (hreset : other.2.lineReset = run.2.lineReset) :
    noticesReturn other = noticesReturn run := by
  obtain ⟨outcome, last⟩ := run
  obtain ⟨_, last'⟩ := other
  cases houtcome
  match outcome with
  | .error .crash => rfl
  | .error (.failure _) => exact hreset
  | .ok () => exact hreset

/-- Whether an activity on the terminal leaves a carriage return of a template on it. -/
def returnsLine (activity : Act σ Unit) (s : Session σ) : Bool :=
  s.openTerminal.engine.slot = .opened && noticesReturn (activity.run.run s.openTerminal.scene)

theorem engine_withTerminal [Host σ] (activity : Act σ Unit) (s : Session σ) :
    (s.withTerminal activity).2.engine =
      { s.engine with
        slot := s.engine.slot.settle s.engine.console
        isDirty := s.engine.isDirty || s.returnsLine activity } := by
  unfold withTerminal returnsLine
  dsimp only
  by_cases hopened : s.openTerminal.engine.slot = .opened
  · rw [if_pos hopened, hopened, engine_attemptOnTerminal, engine_openTerminal]
    rfl
  · rw [if_neg hopened, engine_openTerminal]
    rw [engine_openTerminal] at hopened
    simp [hopened]

theorem returnsLine_put [Host σ] (text : List Char) (s : Session σ) :
    s.returnsLine (Act.put .terminal text) = false := by
  have hput := Act.Within.put (Scene.admits_lineReset (σ := σ) .terminal) text
  have hnone : ((Act.put .terminal text).run.run s.openTerminal.scene).2.lineReset = false :=
    hput s.openTerminal.scene
  unfold returnsLine
  rw [noticesReturn_of_lineReset_eq_false hnone, Bool.and_false]

/-! ## One action -/

variable [Host σ]

/-- Whether an action leaves a carriage return of a template on the terminal. -/
def leavesReturn (isWrite : Bool) (s : Session σ) : Action → Bool
  | .ttyText template => s.returnsLine (Act.ttyText isWrite s.engine.ticks template)
  | _ => false

theorem perform_sleep (isWrite : Bool) (seconds : Nat) (s : Session σ) :
    s.perform isWrite (.sleep seconds) = (.ok (), s.onWorld (·.pause (.ofSeconds seconds))) := by
  unfold perform
  rfl

/-- An action changes nothing of the engine but the terminal and its note. -/
theorem engine_perform (isWrite : Bool) (action : Action) (s : Session σ) :
    (s.perform isWrite action).2.engine =
      { s.engine with
        slot :=
          if action.usesTerminal then s.engine.slot.settle s.engine.console else s.engine.slot
        isDirty := s.engine.isDirty || s.leavesReturn isWrite action } := by
  have hplain (next : Session σ) (h : next.engine = s.engine) (hquiet : action.usesTerminal = false)
      (hnone : s.leavesReturn isWrite action = false) :
      next.engine =
        { s.engine with
          slot :=
            if action.usesTerminal then s.engine.slot.settle s.engine.console else s.engine.slot
          isDirty := s.engine.isDirty || s.leavesReturn isWrite action } := by
    simp [h, hquiet, hnone]
  cases action with
  | dot => exact hplain _ (engine_attempt _ _) rfl rfl
  | bell =>
    change (s.withTerminal _).2.engine = _
    rw [engine_withTerminal, returnsLine_put]
    rfl
  | echo => exact hplain _ (engine_attempt _ _) rfl rfl
  | echoText template => exact hplain _ (engine_attempt _ _) rfl rfl
  | ttyText template => exact engine_withTerminal _ s
  | sleep seconds => exact hplain _ (engine_onWorld _ _) rfl rfl
  | exec command => exact hplain _ (engine_attempt _ _) rfl rfl
  | totals => exact hplain _ (engine_attempt _ _) rfl rfl
  | wait signal => exact hplain _ (engine_onWorld _ _) rfl rfl

/-- The session after an action, with a note of its failure if it failed. -/
def carryOut (isWrite : Bool) (s : Session σ) (action : Action) : Session σ :=
  match s.perform isWrite action with
  | (.error (.failure cause), next) => next.noteFailure action cause
  | (_, next) => next

/-- An action is carried out by performing it, and perhaps a line of the log. -/
theorem carryOut_cases (isWrite : Bool) (action : Action) (s : Session σ) :
    s.carryOut isWrite action = (s.perform isWrite action).2 ∨
      ∃ message, s.carryOut isWrite action = (s.perform isWrite action).2.debug message := by
  unfold carryOut
  split <;> rename_i hperform <;> rw [hperform]
  · exact .inr ⟨_, rfl⟩
  · exact .inl rfl

theorem engine_carryOut (isWrite : Bool) (action : Action) (s : Session σ) :
    (s.carryOut isWrite action).engine = (s.perform isWrite action).2.engine := by
  obtain h | ⟨message, h⟩ := carryOut_cases isWrite action s
  · rw [h]
  · rw [h, engine_debug]

/-- An action leaves the work of the engine as it is. -/
theorem sameWork_carryOut (isWrite : Bool) (action : Action) (s : Session σ) :
    s.engine.SameWork (s.carryOut isWrite action).engine := by
  rw [engine_carryOut, engine_perform]
  exact ⟨⟨rfl, rfl, rfl, rfl, rfl, rfl⟩, rfl⟩

/-! ## A whole program -/

/-- The session after a row of actions, none of which ends in a fault. -/
def carryOutAll (isWrite : Bool) (program : List Action) (s : Session σ) : Session σ :=
  program.foldl (carryOut isWrite) s

@[simp] theorem carryOutAll_nil (isWrite : Bool) (s : Session σ) :
    s.carryOutAll isWrite [] = s := rfl

@[simp] theorem carryOutAll_cons (isWrite : Bool) (action : Action) (rest : List Action)
    (s : Session σ) :
    s.carryOutAll isWrite (action :: rest) =
      (s.carryOut isWrite action).carryOutAll isWrite rest := rfl

/-- A fault ends the walk; otherwise the next action goes on. -/
theorem performAll_cons (isWrite : Bool) (action : Action) (rest : List Action)
    (s : Session σ) :
    (s.perform isWrite action).1 = .error .crash ∧
        s.performAll isWrite (action :: rest) = (.error .crash, s.carryOut isWrite action) ∨
      (s.perform isWrite action).1 ≠ .error .crash ∧
        s.performAll isWrite (action :: rest) =
          (s.carryOut isWrite action).performAll isWrite rest := by
  unfold carryOut
  rw [performAll]
  rcases s.perform isWrite action with ⟨(cause | _) | _, next⟩
  · exact .inr ⟨by simp, rfl⟩
  · exact .inl ⟨rfl, rfl⟩
  · exact .inr ⟨by simp, rfl⟩

/-- A program is walked from its start, to its end unless there is a fault. -/
theorem performAll_walk (isWrite : Bool) (program : List Action) (s : Session σ) :
    ∃ walked, walked <+: program ∧
      (s.performAll isWrite program).2 = s.carryOutAll isWrite walked ∧
      ((s.performAll isWrite program).1 = .ok () ∧ walked = program ∨
        (s.performAll isWrite program).1 = .error .crash) := by
  induction program generalizing s with
  | nil => exact ⟨[], List.prefix_refl _, rfl, .inl ⟨rfl, rfl⟩⟩
  | cons action rest ih =>
    obtain ⟨-, hcrash⟩ | ⟨-, hgoOn⟩ := performAll_cons isWrite action rest s
    · rw [hcrash]
      exact ⟨[action], by simp, rfl, .inr rfl⟩
    · rw [hgoOn]
      obtain ⟨walked, hprefix, hsession, hresult⟩ := ih (s.carryOut isWrite action)
      refine ⟨action :: walked, by simpa using hprefix, hsession, ?_⟩
      simpa using hresult

/-- The actions of a program that are begun: all of them, or those up to a fault. -/
def begun (isWrite : Bool) : List Action → Session σ → List Action
  | [], _ => []
  | action :: rest, s =>
    action ::
      match (s.perform isWrite action).1 with
      | .error .crash => []
      | _ => begun isWrite rest (s.carryOut isWrite action)

/-- The actions that are begun are actions of the program. -/
theorem mem_program_of_mem_begun {isWrite : Bool} {program : List Action} {s : Session σ}
    {action : Action} (h : action ∈ s.begun isWrite program) : action ∈ program := by
  induction program generalizing s with
  | nil => cases h
  | cons first rest ih =>
    rw [begun, List.mem_cons] at h
    obtain rfl | hlater := h
    · exact List.mem_cons_self
    · split at hlater
      · cases hlater
      · exact List.mem_cons_of_mem _ (ih hlater)

/-- To set a program going is to carry out the actions that are begun. -/
theorem performAll_begun (isWrite : Bool) (program : List Action) (s : Session σ) :
    (s.performAll isWrite program).2 = s.carryOutAll isWrite (s.begun isWrite program) := by
  induction program generalizing s with
  | nil => rfl
  | cons action rest ih =>
    obtain ⟨hcrash, hwalk⟩ | ⟨hcalm, hwalk⟩ := performAll_cons isWrite action rest s
    · rw [hwalk, begun, hcrash]
      rfl
    · rw [hwalk, begun, carryOutAll_cons, ih]
      split
      · contradiction
      · rfl

/-- The sessions that the actions of a program find, one after the other. -/
def stages (isWrite : Bool) : List Action → Session σ → List (Session σ)
  | [], _ => []
  | action :: rest, s => s :: stages isWrite rest (s.carryOut isWrite action)

section

variable {P : Session σ → Prop} {isWrite : Bool} {s : Session σ}

/-- What every action keeps, a whole program keeps. -/
theorem carryOutAll_of_kept (hkept : ∀ action t, P t → P (t.carryOut isWrite action)) (h : P s)
    (program : List Action) : P (s.carryOutAll isWrite program) := by
  induction program generalizing s with
  | nil => exact h
  | cons action rest ih => exact ih (hkept action s h)

/-- What every action keeps, each action of a program finds. -/
theorem of_mem_stages (hkept : ∀ action t, P t → P (t.carryOut isWrite action)) (h : P s)
    {program : List Action} {found : Session σ} (hfound : found ∈ s.stages isWrite program) :
    P found := by
  induction program generalizing s with
  | nil => cases hfound
  | cons action rest ih =>
    rw [stages, List.mem_cons] at hfound
    obtain rfl | hlater := hfound
    · exact h
    · exact ih (hkept action s h) hlater

end

/-- Without a fault the whole program is walked, whatever fails on the way. -/
theorem performAll_of_ne_crash {isWrite : Bool} {program : List Action} {s : Session σ}
    (h : (s.performAll isWrite program).1 ≠ .error .crash) :
    s.performAll isWrite program = (.ok (), s.carryOutAll isWrite program) := by
  obtain ⟨walked, -, hsession, ⟨hresult, rfl⟩ | hcrash⟩ := performAll_walk isWrite program s
  · exact Prod.ext hresult hsession
  · exact absurd hcrash h

/-- A program leaves the work of the engine as it is. -/
theorem sameWork_carryOutAll (isWrite : Bool) (program : List Action) (s : Session σ) :
    s.engine.SameWork (s.carryOutAll isWrite program).engine := by
  induction program generalizing s with
  | nil => exact .refl _
  | cons action rest ih => exact (sameWork_carryOut isWrite action s).trans (ih _)

/-- A terminal that has been asked for was so before, or an action on it is among those carried
out. -/
theorem exists_usesTerminal_of_carryOutAll {isWrite : Bool} {program : List Action}
    {s : Session σ} (h : (s.carryOutAll isWrite program).engine.slot ≠ .unopened) :
    s.engine.slot ≠ .unopened ∨ ∃ action ∈ program, action.usesTerminal = true := by
  induction program generalizing s with
  | nil => exact .inl h
  | cons action rest ih =>
    obtain hslot | ⟨later, hmem, huses⟩ := ih h
    · rw [engine_carryOut, engine_perform] at hslot
      cases huses : action.usesTerminal with
      | true => exact .inr ⟨action, by simp, huses⟩
      | false =>
        rw [huses] at hslot
        exact .inl hslot
    · exact .inr ⟨later, List.mem_cons_of_mem _ hmem, huses⟩

/-- A carriage return that has been noted was so before, or a template on the terminal is among the
actions carried out. -/
theorem exists_isTtyText_of_carryOutAll {isWrite : Bool} {program : List Action} {s : Session σ}
    (h : (s.carryOutAll isWrite program).engine.isDirty = true) :
    s.engine.isDirty = true ∨ ∃ action ∈ program, action.isTtyText = true := by
  induction program generalizing s with
  | nil => exact .inl h
  | cons action rest ih =>
    obtain hdirty | ⟨later, hmem, htext⟩ := ih h
    · rw [engine_carryOut, engine_perform] at hdirty
      cases htext : action.isTtyText with
      | true => exact .inr ⟨action, by simp, htext⟩
      | false =>
        have hnone : s.leavesReturn isWrite action = false := by
          cases action <;> first | rfl | cases htext
        exact .inl (by simpa [hnone] using hdirty)
    · exact .inr ⟨later, List.mem_cons_of_mem _ hmem, htext⟩

end Session

end ProgressActions
