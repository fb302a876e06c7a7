import Mathlib.Data.List.Basic
import Mathlib.Tactic.ByContra
import ProgressActions.Host.Scripted
import ProgressActions.Proofs.Account
import ProgressActions.Proofs.LifeCycle

/-!
# Carriage returns on the terminal

An engine takes note when a template on the terminal returns the carriage, so that it can blank the
line in the end. It does so for the literal carriage returns of templates, those of the built-in
status line included, that the terminal has stored. A carriage return that reaches the terminal in
any other way is missed: in a directive that is echoed, in an argument, in a label, in a time pattern
or in a text of the host.
-/

namespace ProgressActions

open Template

namespace World

theorem contents_log (w : World) (moduleName message : String) :
    (w.log moduleName message).contents .terminal = w.contents .terminal :=
  contents_write_of_ne (by decide) w _

theorem contents_debug (w : World) (moduleName message : String) :
    (w.debug moduleName message).contents .terminal = w.contents .terminal := by
  unfold debug
  split
  · exact contents_log w _ _
  · rfl

end World

namespace Session

variable {σ : Type}

theorem contents_openTerminal (s : Session σ) :
    s.openTerminal.world.contents .terminal = s.world.contents .terminal := by
  unfold openTerminal
  split
  · split
    · exact (World.contents_record _ _ _).trans (List.append_nil _)
    · exact (World.contents_debug _ _ _).trans
        ((World.contents_record _ _ _).trans (List.append_nil _))
  · rfl

variable [Host σ]

/-! ## The account of a session -/

/-- The account of an action: what its template stores on the terminal, if it has one and there is a
terminal. -/
def actionAccount (isWrite : Bool) (s : Session σ) : Action → List Entry
  | .ttyText template =>
    if s.openTerminal.engine.slot = .opened then
      accountText { stream := .terminal, isWrite, checkpoint := s.engine.ticks } template.toList 0
        s.openTerminal.scene
    else []
  | _ => []

def programAccount (isWrite : Bool) (program : List Action) (s : Session σ) : List Entry :=
  (program.zip (s.stages isWrite program)).flatMap fun (action, found) ↦
    found.actionAccount isWrite action

/-- The account of a call. Only a tick that runs the program has any entries. -/
def callAccount (s : Session σ) : Call σ → List Entry
  | .tick isWrite =>
    if s.engine.isSealed = true ∧ s.engine.isEnabled = true ∧ s.count.engine.isDue = true then
      s.count.programAccount isWrite s.engine.program
    else []
  | _ => []

def accountOf : List (Call σ) → Session σ → List Entry
  | [], _ => []
  | call :: rest, s => s.callAccount call ++ accountOf rest (s.next call)

/-- A template on the terminal is rendered and nothing more. -/
theorem run_ttyText (isWrite : Bool) (checkpoint : Nat) (template : String) (s : Scene σ) :
    ((Act.ttyText isWrite checkpoint template).run.run s).2 =
      ((render { stream := .terminal, isWrite, checkpoint } template.toList 0).run.run s).2 := by
  unfold Act.ttyText
  rw [Act.run_bind]
  rcases (render { stream := .terminal, isWrite, checkpoint } template.toList 0).run.run s
    with ⟨cause | last, next⟩
  · rfl
  · rfl

/-- What a template is accounted for is all that it stores on the terminal. -/
theorem contents_perform_ttyText (isWrite : Bool) (template : String) (s : Session σ) :
    (s.perform isWrite (.ttyText template)).2.world.contents .terminal =
      s.world.contents .terminal ++
        (s.actionAccount isWrite (.ttyText template)).flatMap Entry.stored := by
  change (s.withTerminal (Act.ttyText isWrite s.engine.ticks template)).2.world.contents .terminal =
    _
  have hopen := contents_openTerminal s
  unfold withTerminal actionAccount
  dsimp only
  split
  · have hrender := (run_render { stream := .terminal, isWrite, checkpoint := s.engine.ticks }
      template.toList 0 s.openTerminal.scene).1
    rw [← run_ttyText] at hrender
    exact hrender.trans (congrArg (· ++ _) hopen)
  · rw [hopen]
    exact (List.append_nil _).symm

/-- Unless it is a fault, an action takes note of the literal carriage returns that it stores. -/
theorem leavesReturn_eq {isWrite : Bool} {action : Action} {s : Session σ}
    (hcalm : (s.perform isWrite action).1 ≠ .error .crash) :
    s.leavesReturn isWrite action = (s.actionAccount isWrite action).any Entry.isReturn := by
  cases action with
  | ttyText template =>
    have hrender := (run_render { stream := .terminal, isWrite, checkpoint := s.engine.ticks }
      template.toList 0 s.openTerminal.scene).2
    rw [← run_ttyText] at hrender
    change (s.withTerminal (Act.ttyText isWrite s.engine.ticks template)).1 ≠ .error .crash at hcalm
    unfold withTerminal at hcalm
    unfold leavesReturn returnsLine actionAccount
    dsimp only at hcalm ⊢
    by_cases hopened : s.openTerminal.engine.slot = .opened
    · rw [if_pos hopened] at hcalm
      rw [if_pos hopened, decide_eq_true hopened, Bool.true_and, noticesReturn_of_ne_crash hcalm,
        hrender]
      exact Bool.false_or _
    · rw [if_neg hopened, decide_eq_false hopened, Bool.false_and]
      rfl
  | _ => rfl

/-- A program without a fault notes exactly the carriage returns of its account. -/
theorem isDirty_performAll {isWrite : Bool} {program : List Action} {s : Session σ}
    (hcalm : (s.performAll isWrite program).1 ≠ .error .crash) :
    (s.performAll isWrite program).2.engine.isDirty =
      (s.engine.isDirty || (s.programAccount isWrite program).any Entry.isReturn) := by
  induction program generalizing s with
  | nil => exact (Bool.or_false _).symm
  | cons action rest ih =>
    obtain ⟨-, hcrash⟩ | ⟨hfirst, hgoOn⟩ := performAll_cons isWrite action rest s
    · rw [hcrash] at hcalm
      exact absurd rfl hcalm
    · have hdirty : (s.carryOut isWrite action).engine.isDirty =
          (s.engine.isDirty || (s.actionAccount isWrite action).any Entry.isReturn) := by
        rw [engine_carryOut, engine_perform, leavesReturn_eq hfirst]
      have hcons : s.programAccount isWrite (action :: rest) =
          s.actionAccount isWrite action ++
            (s.carryOut isWrite action).programAccount isWrite rest := List.flatMap_cons
      rw [hgoOn] at hcalm ⊢
      rw [ih hcalm, hdirty, hcons, List.any_append, Bool.or_assoc]

omit [Host σ] in
theorem isDirty_finishCompile (s : Session σ) :
    s.finishCompile.2.engine.isDirty = s.engine.isDirty := by
  obtain ⟨-, h⟩ | ⟨-, -, h⟩ | ⟨-, -, h⟩ | ⟨-, h⟩ := finishCompile_cases s <;> rw [h] <;> rfl

/-- A tick without a fault notes exactly the carriage returns of its account. -/
theorem isDirty_tick {s : Session σ} {isWrite : Bool} (hcalm : (s.tick isWrite).1 ≠ .error .crash) :
    (s.tick isWrite).2.engine.isDirty =
      (s.engine.isDirty || (s.callAccount (.tick isWrite)).any Entry.isReturn) := by
  unfold callAccount
  dsimp only
  obtain ⟨hsealed, henabled, hdue, htick⟩ | ⟨-, -, hdue, htick⟩ | ⟨hidle, htick⟩ :=
    tick_cases isWrite s
  · rw [htick] at hcalm
    rw [if_pos ⟨hsealed, henabled, hdue⟩, htick]
    exact isDirty_performAll hcalm
  · rw [htick, if_neg fun h ↦ by simp [hdue] at h]
    exact (Bool.or_false _).symm
  · rw [htick, if_neg fun h ↦ by simp [h.1, h.2.1] at hidle]
    exact (Bool.or_false _).symm

/-- A call takes note of a carriage return exactly when a literal one is stored. -/
theorem isDirty_next {s : Session σ} {call : Call σ} (hcalm : (s.answer call).1 ≠ .error .crash) :
    (s.next call).engine.isDirty =
      (s.engine.isDirty || (s.callAccount call).any Entry.isReturn) := by
  cases call with
  | compile spec =>
    change (s.compile spec).2.engine.isDirty = (s.engine.isDirty || false)
    rw [Bool.or_false]
    obtain hkept | ⟨action, -, happend⟩ := engine_compile_cases spec s
    · rw [hkept]
    · rw [happend]
      rfl
  | finishCompile => exact (isDirty_finishCompile s).trans (Bool.or_false _).symm
  | tick isWrite => exact isDirty_tick hcalm
  | finish =>
    change s.finish.2.engine.isDirty = (s.engine.isDirty || false)
    rw [Bool.or_false]
    obtain hfinish | hfinish := engine_finish s
    · rw [hfinish]
    · rw [hfinish]
  | meanwhile world host terminal => exact (Bool.or_false _).symm

/-- Over a row of calls the notes add up. -/
theorem isDirty_steps {s : Session σ} {calls : List (Call σ)}
    (hcalm : .error .crash ∉ s.results calls) :
    (s.steps calls).engine.isDirty =
      (s.engine.isDirty || (s.accountOf calls).any Entry.isReturn) := by
  induction calls generalizing s with
  | nil => exact (Bool.or_false _).symm
  | cons call rest ih =>
    rw [results, List.mem_cons, not_or] at hcalm
    obtain ⟨hfirst, hlater⟩ := hcalm
    rw [steps_cons, ih hlater, isDirty_next fun h ↦ hfirst h.symm, accountOf, List.any_append,
      Bool.or_assoc]

end Session

/-! ## Blanking the line -/

namespace World

/-- The bytes that overwrite the line on the terminal and go back to its first column. -/
def blank (w : World) : List UInt8 :=
  Text.bytes
    (List.replicate (resolveWidth (w.sinks.get .terminal).width w.columns) ' ' ++ ['\r'])

/-- The world once the line on the terminal is overwritten. -/
def blanked (w : World) : World :=
  (w.record (.write .terminal w.blank)).record (.flush .terminal)

/-- A terminal that takes all bytes and can be flushed, in a window that can be blanked. -/
structure TerminalWorks (w : World) : Prop where
  room : (w.sinks.get .terminal).room = none
  flushes : (w.sinks.get .terminal).flushFails = false
  width : resolveWidth (w.sinks.get .terminal).width w.columns ≤ maxPadding

theorem TerminalWorks.record {w : World} (h : w.TerminalWorks) (event : Event) :
    (w.record event).TerminalWorks :=
  ⟨h.room, h.flushes, h.width⟩

theorem TerminalWorks.blanked {w : World} (h : w.TerminalWorks) : w.blanked.TerminalWorks :=
  (h.record _).record _

theorem TerminalWorks.flush {w : World} (h : w.TerminalWorks) :
    w.flush .terminal = (true, w.record (.flush .terminal)) := by
  simp [World.flush, h.flushes]

theorem blank_blanked (w : World) : w.blanked.blank = w.blank := rfl

theorem blank_ne_nil (w : World) : w.blank ≠ [] := by
  have hreturn : Text.bytes ['\r'] = [returnByte] := by decide
  unfold blank
  rw [Text.bytes_append, hreturn]
  simp

theorem events_blanked (w : World) :
    w.blanked.events = w.events ++ [.write .terminal w.blank, .flush .terminal] := by
  simp [blanked]

theorem TerminalWorks.write {w : World} (h : w.TerminalWorks) {content : List UInt8}
    (hcontent : content ≠ []) :
    w.write .terminal content = (true, w.record (.write .terminal content)) := by
  obtain ⟨_, _, _, _, _, _, ⟨_, _, _, ⟨_, room, _⟩⟩, _⟩ := w
  obtain rfl : room = none := h.room
  exact congrArg (Prod.mk true) (if_neg hcontent)

end World

/-- On a terminal that works, the line is blanked and flushed. -/
theorem Act.run_clearLine {σ : Type} {s : Scene σ} (h : s.world.TerminalWorks) :
    Act.clearLine.run.run s = (.ok (), { s with world := s.world.blanked }) := by
  have hwrite := h.write s.world.blank_ne_nil
  unfold World.blank at hwrite
  unfold Act.clearLine
  rw [run_bind, run_width]
  dsimp only
  rw [if_neg (Nat.not_lt.2 h.width), run_bind, run_write, hwrite]
  dsimp only
  rw [if_pos rfl]
  dsimp only
  rw [run_flush, (h.record _).flush]
  rfl

namespace Session

variable {σ : Type}

theorem clearLine_of_works {s : Session σ} (h : s.world.TerminalWorks) :
    s.clearLine = (.ok (), s.onWorld World.blanked) := by
  have hrun := Act.run_clearLine (s := s.scene) h
  unfold clearLine attempt
  rw [hrun]
  rfl

/-- On a terminal that works, the line is blanked as often as asked for. -/
theorem clearLines_of_works (times : Nat) {s : Session σ} (h : s.world.TerminalWorks) :
    ∃ last, s.clearLines times = (.ok (), last) ∧ last.engine = s.engine ∧
      last.world.events = s.world.events ++
        (List.replicate times [.write .terminal s.world.blank, .flush .terminal]).flatten := by
  induction times generalizing s with
  | zero => exact ⟨s, rfl, rfl, by simp⟩
  | succ times ih =>
    obtain ⟨last, hrun, hengine, hevents⟩ := ih (s := s.onWorld World.blanked) h.blanked
    refine ⟨last, ?_, hengine, ?_⟩
    · rw [clearLines, clearLine_of_works h]
      exact hrun
    · have hblank : (s.onWorld World.blanked).world.blank = s.world.blank :=
        s.world.blank_blanked
      have hbefore : (s.onWorld World.blanked).world.events =
          s.world.events ++ [.write .terminal s.world.blank, .flush .terminal] :=
        s.world.events_blanked
      rw [hevents, hblank, hbefore, List.append_assoc, List.replicate_succ, List.flatten_cons]

/-- The end of a run on a terminal that works: the line is blanked as often as is pending, and the
terminal is let go. -/
theorem finish_of_works {s : Session σ} (hopen : s.engine.slot = .opened)
    (hinterval : s.engine.interval ≠ 0) (h : s.world.TerminalWorks) :
    s.finish.1 = .ok () ∧
      s.finish.2.world.events = s.world.events ++
        (List.replicate (pendingClears s.engine)
          [.write .terminal s.world.blank, .flush .terminal]).flatten ++
        [.flush .terminal, .closeTerminal] := by
  obtain ⟨last, hrun, hengine, hevents⟩ := clearLines_of_works (pendingClears s.engine) h
  unfold finish
  rw [if_neg hinterval, hrun]
  refine ⟨rfl, ?_⟩
  have hslot : last.engine.slot = .opened := by rw [hengine, hopen]
  have hclosed : last.closeTerminal.world.events =
      last.world.events ++ [.flush .terminal, .closeTerminal] := by
    unfold closeTerminal
    rw [hslot]
    change ((last.world.flush .terminal).2.record .closeTerminal).events = _
    simp [World.flush]
  exact hclosed.trans (congrArg (· ++ _) hevents)

variable [Host σ]

/-! ## The rule -/

/-- What is pending in the end depends on whether a carriage return was noted. -/
theorem pendingClears_pos_iff {given : Nat} {e : Engine} (h : e.LifeCycle given)
    (hopen : e.slot = .opened) : 0 < pendingClears e ↔ e.isDirty = true := by
  unfold pendingClears
  constructor
  · intro hpending
    by_contra hclean
    rw [if_neg fun hboth ↦ hclean hboth.1] at hpending
    exact absurd hpending (Nat.lt_irrefl 0)
  · intro hdirty
    obtain ⟨template, hmem⟩ := h.of_isDirty hdirty
    rw [if_pos ⟨hdirty, hopen⟩]
    exact List.countP_pos_iff.2 ⟨.ttyText template, hmem, rfl⟩

/-- The rule of the carriage return. What templates store on the terminal is accounted for, and after
every row of calls without a fault a carriage return has been noted if and only if a literal one is in
the account. So the engine knows about all carriage returns if and only if the account holds none at
all or a literal one; and the end of a run blanks the line on a terminal that works in the latter case
only. -/
theorem isDirty_iff_isReturn (given : Nat) (console : Console) (world : World) (host : σ)
    (calls : List (Call σ))
    (hcalm : .error .crash ∉ (fresh given console world host).results calls) :
    let s := (fresh given console world host).steps calls
    let entries := (fresh given console world host).accountOf calls
    (∀ (found : Session σ) (isWrite : Bool) (template : String),
      (found.perform isWrite (.ttyText template)).2.world.contents .terminal =
        found.world.contents .terminal ++
          (found.actionAccount isWrite (.ttyText template)).flatMap Entry.stored) ∧
    (s.engine.isDirty = true ↔ ∃ entry ∈ entries, entry.isReturn = true) ∧
    ((s.engine.isDirty = true ↔ returnByte ∈ entries.flatMap Entry.stored) ↔
      (returnByte ∈ entries.flatMap Entry.stored → ∃ entry ∈ entries, entry.isReturn = true)) ∧
    (s.engine.slot = .opened → s.world.TerminalWorks →
      s.finish.1 = .ok () ∧
        ∃ times, (0 < times ↔ ∃ entry ∈ entries, entry.isReturn = true) ∧
          s.finish.2.world.events = s.world.events ++
            (List.replicate times [.write .terminal s.world.blank, .flush .terminal]).flatten ++
            [.flush .terminal, .closeTerminal]) := by
  intro s entries
  have hdirty : s.engine.isDirty = true ↔ ∃ entry ∈ entries, entry.isReturn = true := by
    rw [isDirty_steps hcalm]
    exact List.any_eq_true
  have hstored : (∃ entry ∈ entries, entry.isReturn = true) →
      returnByte ∈ entries.flatMap Entry.stored := by
    rintro ⟨entry, hmem, hreturn⟩
    have hbyte : returnByte ∈ entry.stored := by
      simpa using (Bool.and_eq_true_iff.1 hreturn).2
    exact List.mem_flatMap.2 ⟨entry, hmem, hbyte⟩
  refine ⟨fun found isWrite template ↦ contents_perform_ttyText isWrite template found, hdirty, ?_,
    fun hopen hworks ↦ ?_⟩
  · rw [hdirty]
    exact ⟨fun h ↦ h.2, fun h ↦ ⟨hstored, h⟩⟩
  · have hlaw := (stage_steps_fresh given console world host calls).lifeCycle
    have hrunning : s.engine.phase = .running := by
      by_contra hidle
      have hslot := (hlaw.of_not_running hidle).2.1
      rw [hopen] at hslot
      cases hslot
    obtain ⟨hresult, hevents⟩ :=
      finish_of_works hopen (hlaw.interval_of_running hrunning).2 hworks
    exact ⟨hresult, pendingClears s.engine, (pendingClears_pos_iff hlaw hopen).trans hdirty, hevents⟩

/-- A template that ends in a literal carriage return keeps to the rule: its return is noted. -/
theorem isReturn_of_literal_return :
    let first := fresh 1 ⟨.listing, .diagnostics, .ok { width := some 3 }⟩ {} ({} : ScriptedHost)
    let calls : List (Call ScriptedHost) :=
      [.compile "ttyout=ab\\r", .finishCompile, .tick true]
    ∃ entry ∈ first.accountOf calls, entry.isReturn = true := by
  intro first calls
  have hrule := isDirty_iff_isReturn 1 ⟨.listing, .diagnostics, .ok { width := some 3 }⟩ {}
    ({} : ScriptedHost) calls (by decide +kernel)
  exact hrule.2.1.1 (by decide +kernel)

/-- A carriage return that is the letter of a directive is echoed with it, and missed: the engine
takes no note, and the end of the run leaves the line as it is. -/
theorem isDirty_of_echoed_return :
    let first := fresh 1 ⟨.listing, .diagnostics, .ok { width := some 3 }⟩ {} ({} : ScriptedHost)
    let s := first.steps [.compile "ttyout=ab%\\r", .finishCompile, .tick true]
    s.world.contents .terminal = [97, 98, 37, returnByte] ∧ s.engine.isDirty = false ∧
      s.finish.2.world.events = s.world.events ++ [.flush .terminal, .closeTerminal] := by
  decide +kernel

end Session

end ProgressActions
