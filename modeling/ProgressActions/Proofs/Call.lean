import ProgressActions.Engine.Finish
import ProgressActions.Proofs.Performance

/-!
# Calls on a session

An archiver drives an engine by four kinds of calls, in any order. Between two calls time may pass,
sinks may fill up or be replaced, the host may change its state, and a terminal that could not be
had may turn up; only what has happened so far stays on record. Each call turns the engine in one of
a few ways, and every law about runs of calls rests on these.
-/

namespace ProgressActions

variable {σ : Type}

/-- What an archiver does with a session. -/
inductive Call (σ : Type) where
  | compile (spec : String)
  | finishCompile
  | tick (isWrite : Bool)
  | finish
  /-- The surroundings and the host change, and what comes of an attempt to open the terminal. -/
  | meanwhile (world : World) (host : σ) (terminal : Except String Sink)

inductive Engine.Turn (e : Engine) : Engine → Prop where
  /-- The call is refused, or has nothing to do. -/
  | stay : e.Turn e
  | append (action : Action) (hopen : e.isSealed = false) : e.Turn (e.append action)
  /-- The program is completed without being set to work. -/
  | complete (hphase : e.phase ≠ .compiling) (hprogram : e.lacksProgram = false) :
      e.Turn e.complete
  | start (hphase : e.phase = .compiling) : e.Turn e.start.complete
  /-- The bare echo stands in for a program. -/
  | supply (hopen : e.isSealed = false) (hprogram : e.lacksProgram = true) :
      e.Turn (e.append .echo).start.complete
  /-- A tick is counted, and the program may run. -/
  | tick (slot : TerminalSlot) (isDirty : Bool) (hsealed : e.isSealed = true)
      (henabled : e.isEnabled = true)
      (hslot : slot ≠ .unopened →
        e.slot ≠ .unopened ∨ ∃ action ∈ e.program, action.usesTerminal = true)
      (hdirty : isDirty = true →
        e.isDirty = true ∨ ∃ action ∈ e.program, action.isTtyText = true) :
      e.Turn { e with ticks := e.ticks + 1, slot, isDirty }
  /-- The terminal is let go. -/
  | release : e.Turn { e with slot := .unopened }
  | surround (terminal : Except String Sink) :
      e.Turn { e with console := { e.console with terminal } }

namespace Session

/-- A session with an engine that nothing has been done with. -/
def fresh (interval : Nat) (console : Console) (world : World) (host : σ) : Session σ :=
  { engine := { interval, console }, world, host }

/-- The session in other surroundings. What has happened so far stays on record. -/
def surround (world : World) (host : σ) (terminal : Except String Sink) (s : Session σ) :
    Session σ :=
  { engine := { s.engine with console := { s.engine.console with terminal } }
    world := { world with trace := s.world.trace }
    host }

variable [Host σ]

/-- What comes of a call: its result and the session after it. -/
def answer (s : Session σ) : Call σ → Except Stop Unit × Session σ
  | .compile spec => ((s.compile spec).1.mapError .refused, (s.compile spec).2)
  | .finishCompile => (s.finishCompile.1.mapError .refused, s.finishCompile.2)
  | .tick isWrite => s.tick isWrite
  | .finish => s.finish
  | .meanwhile world host terminal => (.ok (), s.surround world host terminal)

def next (s : Session σ) (call : Call σ) : Session σ := (s.answer call).2

def steps (s : Session σ) (calls : List (Call σ)) : Session σ := calls.foldl next s

def results : List (Call σ) → Session σ → List (Except Stop Unit)
  | [], _ => []
  | call :: rest, s => (s.answer call).1 :: results rest (s.next call)

@[simp] theorem steps_nil (s : Session σ) : s.steps [] = s := rfl

@[simp] theorem steps_cons (s : Session σ) (call : Call σ) (rest : List (Call σ)) :
    s.steps (call :: rest) = (s.next call).steps rest := rfl

@[simp] theorem steps_append (s : Session σ) (first second : List (Call σ)) :
    s.steps (first ++ second) = (s.steps first).steps second :=
  List.foldl_append

end Session

theorem Act.Within.clearLine [Host σ] {R : Scene σ → Scene σ → Prop}
    (hR : Scene.Admits .terminal R) : Act.Within R Act.clearLine := by
  refine .bind hR (.width hR) fun columns ↦ ?_
  dsimp only
  split
  · exact .bind hR (.throw hR _) fun _ ↦ .put hR _
  · exact .put hR _

namespace Session

/-! ## Compiling -/

@[simp] theorem engine_onEngine (f : Engine → Engine) (s : Session σ) :
    (s.onEngine f).engine = f s.engine := rfl

@[simp] theorem engine_start (s : Session σ) : s.start.engine = s.engine.start := rfl

theorem engine_compile (spec : String) (s : Session σ) :
    (s.compile spec).2.engine =
      match s.engine.compile spec with
      | .ok e => e
      | .error _ => s.engine := by
  unfold compile
  cases s.engine.compile spec <;> rfl

@[simp] theorem host_compile (spec : String) (s : Session σ) : (s.compile spec).2.host = s.host := by
  unfold compile
  split <;> rfl

/-- A spec leaves an engine alone or adds an action to it. -/
theorem engine_compile_cases (spec : String) (s : Session σ) :
    (s.compile spec).2.engine = s.engine ∨
      ∃ action, s.engine.isSealed = false ∧ (s.compile spec).2.engine = s.engine.append action := by
  rw [engine_compile]
  unfold Engine.compile
  cases hsealed : s.engine.isSealed with
  | true => exact .inl rfl
  | false =>
    cases Action.parse spec with
    | error cause => exact .inl rfl
    | ok action => exact .inr ⟨action, rfl, rfl⟩

theorem compile_of_isSealed {s : Session σ} (h : s.engine.isSealed = true) (spec : String) :
    s.compile spec = (.error (.lifecycle .compile s.engine.phase), s) := by
  unfold compile
  rw [Engine.compile_of_isSealed h]

/-- A program with actions is completed and set to work. -/
theorem finishCompile_of_compiling {s : Session σ} (h : s.engine.phase = .compiling) :
    s.finishCompile = (.ok (), s.start.onEngine Engine.complete) := by
  have hlacks : s.engine.lacksProgram = false := by simp [Engine.lacksProgram, h]
  simp [finishCompile, hlacks, h]

/-- Without actions and without an interval the engine stays idle. -/
theorem finishCompile_of_not_lacksProgram {s : Session σ} (hphase : s.engine.phase ≠ .compiling)
    (hlacks : s.engine.lacksProgram = false) :
    s.finishCompile = (.ok (), s.onEngine Engine.complete) := by
  simp [finishCompile, hlacks, hphase]

/-- The bare echo comes too late for an engine that is complete already. -/
theorem finishCompile_of_isSealed {s : Session σ} (hsealed : s.engine.isSealed = true)
    (hlacks : s.engine.lacksProgram = true) :
    s.finishCompile = (.error (.lifecycle .compile s.engine.phase), s) := by
  simp [finishCompile, hlacks, compile_of_isSealed hsealed]

/-- A spec that parses is compiled as long as the program is not complete. -/
theorem compile_of_parse {s : Session σ} {spec : String} {action : Action}
    (hparse : Action.parse spec = .ok action) (hopen : s.engine.isSealed = false) :
    (s.compile spec).1 = .ok () ∧ (s.compile spec).2.engine = s.engine.append action := by
  have hcompile : s.engine.compile spec = .ok (s.engine.append action) := by
    simp [Engine.compile, hopen, hparse]
  simp [compile, hcompile]

theorem compile_echo {s : Session σ} (hopen : s.engine.isSealed = false) :
    (s.compile "echo").1 = .ok () ∧ (s.compile "echo").2.engine = s.engine.append .echo :=
  compile_of_parse rfl hopen

/-- An interval without actions is given the bare echo. -/
theorem finishCompile_of_lacksProgram {s : Session σ} (hopen : s.engine.isSealed = false)
    (hlacks : s.engine.lacksProgram = true) :
    s.finishCompile = (.ok (), (s.compile "echo").2.start.onEngine Engine.complete) := by
  obtain ⟨hresult, hengine⟩ := compile_echo hopen
  simp [finishCompile, hlacks, hresult, hengine]

/-- What the completion of a program makes of an engine. -/
theorem finishCompile_cases (s : Session σ) :
    (s.engine.phase = .compiling ∧ s.finishCompile.2.engine = s.engine.start.complete) ∨
      (s.engine.phase ≠ .compiling ∧ s.engine.lacksProgram = false ∧
        s.finishCompile.2.engine = s.engine.complete) ∨
      (s.engine.isSealed = false ∧ s.engine.lacksProgram = true ∧
        s.finishCompile.2.engine = (s.engine.append .echo).start.complete) ∨
      (s.engine.isSealed = true ∧ s.finishCompile.2.engine = s.engine) := by
  by_cases hphase : s.engine.phase = .compiling
  · rw [finishCompile_of_compiling hphase]
    exact .inl ⟨hphase, rfl⟩
  cases hlacks : s.engine.lacksProgram with
  | false =>
    rw [finishCompile_of_not_lacksProgram hphase hlacks]
    exact .inr (.inl ⟨hphase, rfl, rfl⟩)
  | true =>
    cases hsealed : s.engine.isSealed with
    | true =>
      rw [finishCompile_of_isSealed hsealed hlacks]
      exact .inr (.inr (.inr ⟨rfl, rfl⟩))
    | false =>
      rw [finishCompile_of_lacksProgram hsealed hlacks, engine_onEngine, engine_start,
        (compile_echo hsealed).2]
      exact .inr (.inr (.inl ⟨rfl, rfl, rfl⟩))

/-! ## Finishing -/

theorem engine_clearLine (s : Session σ) : s.clearLine.2.engine = s.engine := by
  unfold clearLine
  have hattempt := engine_attempt Act.clearLine s
  split <;> rename_i h <;> rw [h] at hattempt <;> exact hattempt

theorem engine_clearLines (times : Nat) (s : Session σ) :
    (s.clearLines times).2.engine = s.engine := by
  induction times generalizing s with
  | zero => rfl
  | succ times ih =>
    have hfirst := engine_clearLine s
    rw [clearLines]
    split
    · rename_i cleared h
      rw [h] at hfirst
      rw [ih, hfirst]
    · exact hfirst

theorem result_clearLines (times : Nat) (s : Session σ) :
    (s.clearLines times).1 = .ok () ∨ (s.clearLines times).1 = .error .crash := by
  induction times generalizing s with
  | zero => exact .inl rfl
  | succ times ih =>
    rw [clearLines, clearLine]
    rcases s.attempt Act.clearLine with ⟨(cause | _) | _, next⟩
    · exact ih _
    · exact .inr rfl
    · exact ih _

theorem result_finish (s : Session σ) :
    s.finish.1 = .ok () ∨ s.finish.1 = .error .crash := by
  unfold finish
  split
  · exact .inl rfl
  · obtain hok | hcrash := result_clearLines (pendingClears s.engine) s
    · have hrun : s.clearLines (pendingClears s.engine) =
          (.ok (), (s.clearLines (pendingClears s.engine)).2) := Prod.ext hok rfl
      rw [hrun]
      exact .inl rfl
    · have hrun : s.clearLines (pendingClears s.engine) =
          (.error .crash, (s.clearLines (pendingClears s.engine)).2) := Prod.ext hcrash rfl
      rw [hrun]
      exact .inr rfl

theorem engine_closeTerminal (s : Session σ) :
    s.closeTerminal.engine = { s.engine with slot := .unopened } := by
  unfold closeTerminal
  cases hslot : s.engine.slot <;> rfl

/-- The end of a run lets the terminal go, or leaves the engine alone. -/
theorem engine_finish (s : Session σ) :
    s.finish.2.engine = s.engine ∨ s.finish.2.engine = { s.engine with slot := .unopened } := by
  unfold finish
  split
  · exact .inl rfl
  · have hcleared := engine_clearLines (pendingClears s.engine) s
    split
    · rename_i cleared h
      rw [h] at hcleared
      right
      rw [engine_closeTerminal, hcleared]
    · exact .inl hcleared

/-! ## Every call -/

def count (s : Session σ) : Session σ := s.onEngine fun e ↦ { e with ticks := e.ticks + 1 }

theorem turn_finishCompile (s : Session σ) : s.engine.Turn s.finishCompile.2.engine := by
  obtain ⟨hphase, h⟩ | ⟨hphase, hlacks, h⟩ | ⟨hopen, hlacks, h⟩ | ⟨-, h⟩ := finishCompile_cases s
  · rw [h]
    exact .start hphase
  · rw [h]
    exact .complete hphase hlacks
  · rw [h]
    exact .supply hopen hlacks
  · rw [h]
    exact .stay

variable [Host σ]

/-- A tick runs the program, or only counts, or has nothing to count for. -/
theorem tick_cases (isWrite : Bool) (s : Session σ) :
    (s.engine.isSealed = true ∧ s.engine.isEnabled = true ∧ s.count.engine.isDue = true ∧
        s.tick isWrite = s.count.performAll isWrite s.engine.program) ∨
      (s.engine.isSealed = true ∧ s.engine.isEnabled = true ∧ s.count.engine.isDue = false ∧
        s.tick isWrite = (.ok (), s.count)) ∨
      ((s.engine.isSealed = false ∨ s.engine.isEnabled = false) ∧ (s.tick isWrite).2 = s) := by
  unfold tick
  cases hsealed : s.engine.isSealed with
  | false => exact .inr (.inr ⟨.inl rfl, rfl⟩)
  | true =>
    cases henabled : s.engine.isEnabled with
    | false => exact .inr (.inr ⟨.inr rfl, rfl⟩)
    | true =>
      cases hdue : s.count.engine.isDue with
      | true => exact .inl ⟨rfl, rfl, rfl, if_pos hdue⟩
      | false => exact .inr (.inl ⟨rfl, rfl, rfl, if_neg (Bool.eq_false_iff.1 hdue)⟩)

/-- A program that is set going turns an engine as a tick does, wherever a fault may end it. -/
theorem turn_performAll {s : Session σ} (isWrite : Bool) (hsealed : s.engine.isSealed = true)
    (henabled : s.engine.isEnabled = true) :
    s.engine.Turn (s.count.performAll isWrite s.engine.program).2.engine := by
  obtain ⟨walked, hprefix, hsession, -⟩ := performAll_walk isWrite s.engine.program s.count
  rw [hsession]
  have hsame := sameWork_carryOutAll isWrite walked s.count
  rw [hsame.eq_with_terminal]
  refine .tick _ _ hsealed henabled (fun hslot ↦ ?_) fun hdirty ↦ ?_
  · obtain hbefore | ⟨action, hmem, huses⟩ := exists_usesTerminal_of_carryOutAll hslot
    · exact .inl hbefore
    · exact .inr ⟨action, hprefix.subset hmem, huses⟩
  · obtain hbefore | ⟨action, hmem, htext⟩ := exists_isTtyText_of_carryOutAll hdirty
    · exact .inl hbefore
    · exact .inr ⟨action, hprefix.subset hmem, htext⟩

/-- Each call turns the engine in one of the ways above. -/
theorem turn_next (s : Session σ) (call : Call σ) : s.engine.Turn (s.next call).engine := by
  cases call with
  | compile spec =>
    change s.engine.Turn (s.compile spec).2.engine
    obtain hkept | ⟨action, hopen, happend⟩ := engine_compile_cases spec s
    · rw [hkept]
      exact .stay
    · rw [happend]
      exact .append action hopen
  | finishCompile => exact turn_finishCompile s
  | tick isWrite =>
    change s.engine.Turn (s.tick isWrite).2.engine
    obtain ⟨hsealed, henabled, -, htick⟩ | ⟨hsealed, henabled, -, htick⟩ | ⟨-, htick⟩ :=
      tick_cases isWrite s
    · rw [htick]
      exact turn_performAll isWrite hsealed henabled
    · rw [htick]
      exact .tick _ _ hsealed henabled .inl .inl
    · rw [htick]
      exact .stay
  | finish =>
    obtain hfinish | hfinish := engine_finish s
    · change s.engine.Turn s.finish.2.engine
      rw [hfinish]
      exact .stay
    · change s.engine.Turn s.finish.2.engine
      rw [hfinish]
      exact .release
  | meanwhile world host terminal => exact .surround terminal

/-! ## The actions that calls begin -/

/-- The actions that a call begins. Only a tick that runs the program begins any. -/
def callActions (s : Session σ) : Call σ → List Action
  | .tick isWrite =>
    if s.engine.isSealed = true ∧ s.engine.isEnabled = true ∧ s.count.engine.isDue = true then
      s.count.begun isWrite s.engine.program
    else []
  | _ => []

/-- The actions that a row of calls begins, one after the other. -/
def actionsOf : List (Call σ) → Session σ → List Action
  | [], _ => []
  | call :: rest, s => s.callActions call ++ actionsOf rest (s.next call)

/-- Only a tick that fires carries out actions. -/
theorem fires_of_mem_callActions {s : Session σ} {call : Call σ} {action : Action}
    (h : action ∈ s.callActions call) :
    s.engine.isSealed = true ∧ s.engine.isEnabled = true ∧ s.count.engine.isDue = true := by
  cases call with
  | tick isWrite =>
    unfold callActions at h
    dsimp only at h
    split at h
    · assumption
    · cases h
  | _ => cases h

theorem mem_program_of_mem_callActions {s : Session σ} {call : Call σ} {action : Action}
    (h : action ∈ s.callActions call) : action ∈ s.engine.program := by
  cases call with
  | tick isWrite =>
    unfold callActions at h
    dsimp only at h
    split at h
    · exact mem_program_of_mem_begun h
    · cases h
  | _ => cases h

/-- A tick carries out the actions that it begins, if it counts at all. -/
theorem tick_callActions (isWrite : Bool) (s : Session σ) :
    (s.tick isWrite).2 = s.count.carryOutAll isWrite (s.callActions (.tick isWrite)) ∨
      (s.tick isWrite).2 = s ∧ s.callActions (.tick isWrite) = [] := by
  unfold callActions
  dsimp only
  obtain ⟨hsealed, henabled, hdue, htick⟩ | ⟨-, -, hdue, htick⟩ | ⟨hidle, htick⟩ :=
    tick_cases isWrite s
  · rw [if_pos ⟨hsealed, henabled, hdue⟩, htick]
    exact .inl (performAll_begun isWrite s.engine.program s.count)
  · rw [htick, if_neg fun h ↦ by simp [hdue] at h]
    exact .inl rfl
  · rw [htick, if_neg fun h ↦ by simp [h.1, h.2.1] at hidle]
    exact .inr ⟨rfl, rfl⟩

end Session

end ProgressActions
