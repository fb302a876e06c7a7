import ProgressActions.Host.Scripted
import ProgressActions.Proofs.CarriageReturn
import ProgressActions.Proofs.Deeds
import ProgressActions.Proofs.Fault

/-!
# The conduct of an engine at the terminal

The terminal is opened by the first action that needs it, and what comes of the attempt is remembered
until the terminal is let go. So between two ends of a run a terminal that was not open is left alone,
or tried once in vain, or opened and then written to and flushed. The end of a run flushes an open
terminal for the last time and closes it, unless its line has to be blanked in a window that is too
wide for that; such an end is a fault, and leaves the terminal as it was.

The laws are about consoles whose listing and diagnostics go elsewhere.
-/

namespace ProgressActions

open Event Template

/-- A console whose other streams do not go to the terminal. -/
structure Console.Apart (c : Console) : Prop where
  listing : c.listing ≠ .terminal
  diagnostics : c.diagnostics ≠ .terminal

namespace Event

def isTerminalOutput : Event → Bool
  | write stream _ => stream == .terminal
  | flush stream => stream == .terminal
  | _ => false

def isTerminal : Event → Bool
  | openTerminal _ => true
  | closeTerminal => true
  | event => event.isTerminalOutput

/-- Whether the terminal is open after an event, given whether it was before. Nothing comes of an
event that may not happen there. -/
def follow : (isOpen : Bool) → Event → Option Bool
  | false, openTerminal opened => some opened
  | true, closeTerminal => some false
  | true, event => if event.isTerminalOutput then some true else none
  | false, _ => none

theorem ignores_isTerminal {stream : Stream} (h : stream ≠ .terminal) :
    Ignores isTerminal stream := by
  intro event hleft
  cases event with
  | write s content =>
    obtain rfl | rfl : s = stream ∨ s = .stderr := by simpa [isLeftOn] using hleft
    · simpa [isTerminal, isTerminalOutput] using h
    · rfl
  | flush s =>
    obtain rfl : s = stream := by simpa [isLeftOn] using hleft
    simpa [isTerminal, isTerminalOutput] using h
  | openTerminal opened => cases hleft
  | closeTerminal => cases hleft
  | _ => rfl

theorem isTerminal_of_isTerminalOutput {event : Event} (h : event.isTerminalOutput = true) :
    event.isTerminal = true := by
  cases event <;> first | rfl | exact h

/-- An open terminal takes any output and stays open. -/
theorem follow_of_isTerminalOutput {event : Event} (h : event.isTerminalOutput = true) :
    follow true event = some true := by
  cases event <;> first | cases h | exact if_pos h

/-- An open terminal takes a row of output and stays open. -/
theorem foldlM_follow_of_output {output : List Event}
    (h : ∀ event ∈ output, event.isTerminalOutput = true) :
    output.foldlM follow true = some true := by
  induction output with
  | nil => rfl
  | cons event rest ih =>
    rw [List.foldlM_cons, follow_of_isTerminalOutput (h event List.mem_cons_self)]
    exact ih fun later hlater ↦ h later (List.mem_cons_of_mem _ hlater)

end Event

namespace World

/-- What has happened to the terminal so far. -/
def terminalEvents (w : World) : List Event := w.selected isTerminal

/-- From one world to another, at most output on the terminal has come, in the same window. -/
structure Outputs (v w : World) : Prop where
  window : w.window .terminal = v.window .terminal
  events : ∃ output, (∀ event ∈ output, event.isTerminalOutput = true) ∧
    w.terminalEvents = v.terminalEvents ++ output

theorem terminalEvents_debug (w : World) (moduleName message : String) :
    (w.debug moduleName message).terminalEvents = w.terminalEvents :=
  selected_debug (ignores_isTerminal (by decide : Stream.stderr ≠ _)).log w moduleName message

namespace Outputs

variable {u v w : World}

theorem of_kept (hwindow : w.window .terminal = v.window .terminal)
    (hevents : w.terminalEvents = v.terminalEvents) : v.Outputs w :=
  ⟨hwindow, [], by simp, hevents.trans (List.append_nil _).symm⟩

theorem refl (w : World) : w.Outputs w := .of_kept rfl rfl

theorem trans (hfirst : u.Outputs v) (hsecond : v.Outputs w) : u.Outputs w := by
  obtain ⟨hv, output, houtput, hfirst⟩ := hfirst
  obtain ⟨hw, more, hmore, hsecond⟩ := hsecond
  refine ⟨hw.trans hv, output ++ more, fun event hmem ↦ ?_, ?_⟩
  · exact (List.mem_append.1 hmem).elim (houtput event) (hmore event)
  · rw [hsecond, hfirst, List.append_assoc]

theorem record {event : Event} (h : event.isTerminalOutput = true) (w : World) :
    w.Outputs (w.record event) := by
  refine ⟨rfl, [event], by simpa using h, ?_⟩
  rw [terminalEvents, selected_record, List.filter_cons_of_pos (isTerminal_of_isTerminalOutput h)]
  rfl

theorem write (w : World) (content : List UInt8) : w.Outputs (w.write .terminal content).2 := by
  refine ⟨(SameWindows.write w .terminal content).window .terminal, ?_⟩
  unfold World.write
  dsimp only
  split
  · exact (refl w).events
  · exact (record (by rfl : isTerminalOutput (.write .terminal _) = true) w).events

theorem log (w : World) (moduleName message : String) : w.Outputs (w.log moduleName message) :=
  .of_kept ((SameWindows.write w .stderr _).window .terminal)
    (selected_log (ignores_isTerminal (by decide : Stream.stderr ≠ _)).log w moduleName message)

theorem debug (w : World) (moduleName message : String) : w.Outputs (w.debug moduleName message) := by
  unfold World.debug
  split
  · exact .log w moduleName message
  · exact .refl w

end Outputs

end World

variable {σ : Type} [Host σ]

theorem Scene.admits_outputs :
    Scene.Admits .terminal fun s t : Scene σ ↦ s.world.Outputs t.world where
  refl s := .refl s.world
  trans hst htu := hst.trans htu
  write s content := .write s.world content
  flush s := .record rfl s.world
  record s event h :=
    .of_kept rfl (World.selected_record_of_not (by cases event <;> first | rfl | cases h) s.world)
  log s message := .log s.world "error" message
  measure s := .refl s.world
  noteError s _ := .refl s.world

/-! ## Between two ends of a run -/

/-- What happens to a terminal between two ends of a run, from one state of its slot to another. -/
inductive TerminalSlot.Conduct : TerminalSlot → List Event → TerminalSlot → Prop where
  /-- Nothing happens. -/
  | rest (slot : TerminalSlot) : Conduct slot [] slot
  /-- The terminal is tried in vain. -/
  | refuse : Conduct unopened [.openTerminal false] unavailable
  /-- The terminal is opened, and output follows. -/
  | session (output : List Event) (houtput : ∀ event ∈ output, event.isTerminalOutput = true) :
      Conduct unopened (.openTerminal true :: output) opened
  /-- Output follows on a terminal that is open. -/
  | goOn (output : List Event) (houtput : ∀ event ∈ output, event.isTerminalOutput = true) :
      Conduct opened output opened

namespace TerminalSlot.Conduct

variable {first second third : TerminalSlot} {log more : List Event}

theorem trans (hfirst : Conduct first log second) (hsecond : Conduct second more third) :
    Conduct first (log ++ more) third := by
  cases hfirst with
  | rest => exact hsecond
  | refuse =>
    cases hsecond with
    | rest => exact .refuse
  | session output houtput =>
    cases hsecond with
    | rest => exact .session _ (by simpa using houtput)
    | goOn _ hmore =>
      exact .session _ fun event hmem ↦ (List.mem_append.1 hmem).elim (houtput event) (hmore event)
  | goOn _ houtput =>
    cases hsecond with
    | rest => exact .goOn _ (by simpa using houtput)
    | goOn _ hmore =>
      exact .goOn _ fun event hmem ↦ (List.mem_append.1 hmem).elim (houtput event) (hmore event)

/-- Only a terminal that has not been tried is tried. -/
theorem of_attempt {isOpen : Bool} (h : Conduct first log second)
    (hmem : .openTerminal isOpen ∈ log) : first = unopened ∧ second ≠ unopened := by
  cases h with
  | rest => cases hmem
  | refuse => exact ⟨rfl, by decide⟩
  | session => exact ⟨rfl, by decide⟩
  | goOn output houtput => exact absurd (houtput _ hmem) Bool.false_ne_true

theorem foldlM_follow (h : Conduct first log second) :
    log.foldlM follow (first == .opened) = some (second == .opened) := by
  cases h with
  | rest => rfl
  | refuse => rfl
  | session output houtput => exact foldlM_follow_of_output houtput
  | goOn output houtput => exact foldlM_follow_of_output houtput

end TerminalSlot.Conduct

/-- What the end of a run does to a terminal. -/
inductive TerminalSlot.Release : TerminalSlot → List Event → Prop where
  /-- A terminal that is not open is left alone. -/
  | untouched {slot : TerminalSlot} (hslot : slot ≠ opened) : Release slot []
  /-- An open terminal is flushed for the last time and closed. -/
  | closed (output : List Event) (houtput : ∀ event ∈ output, event.isTerminalOutput = true) :
      Release opened (output ++ [.flush .terminal, .closeTerminal])

namespace TerminalSlot.Release

variable {slot : TerminalSlot} {log : List Event}

theorem foldlM_follow (h : Release slot log) : log.foldlM follow (slot == .opened) = some false := by
  cases h with
  | untouched hslot =>
    rw [List.foldlM_nil, beq_false_of_ne hslot]
    rfl
  | closed output houtput =>
    rw [List.foldlM_append]
    exact congrArg (· >>= _) (foldlM_follow_of_output houtput)

theorem not_attempt (h : Release slot log) (isOpen : Bool) : .openTerminal isOpen ∉ log := by
  cases h with
  | untouched => exact List.not_mem_nil
  | closed output houtput =>
    intro hmem
    obtain hmem | hmem := List.mem_append.1 hmem
    · exact Bool.false_ne_true (houtput _ hmem)
    · simp at hmem

end TerminalSlot.Release

namespace Session

/-- From one session to another, the terminal is treated as it should be between two ends of a
run. -/
def Conducts (s t : Session σ) : Prop :=
  ∃ log, t.world.terminalEvents = s.world.terminalEvents ++ log ∧
    s.engine.slot.Conduct log t.engine.slot

namespace Conducts

variable {s t u : Session σ}

omit [Host σ] in
theorem of_kept (hslot : t.engine.slot = s.engine.slot)
    (hevents : t.world.terminalEvents = s.world.terminalEvents) : s.Conducts t :=
  ⟨[], hevents.trans (List.append_nil _).symm, hslot ▸ .rest _⟩

omit [Host σ] in
theorem trans (hfirst : s.Conducts t) (hsecond : t.Conducts u) : s.Conducts u := by
  obtain ⟨log, ht, hlog⟩ := hfirst
  obtain ⟨more, hu, hmore⟩ := hsecond
  exact ⟨log ++ more, by rw [hu, ht, List.append_assoc], hlog.trans hmore⟩

omit [Host σ] in
/-- Output on an open terminal is good conduct. -/
theorem of_outputs (hopened : s.engine.slot = .opened) (hslot : t.engine.slot = .opened)
    (h : s.world.Outputs t.world) : s.Conducts t := by
  obtain ⟨output, houtput, hevents⟩ := h.events
  refine ⟨output, hevents, ?_⟩
  rw [hopened, hslot]
  exact .goOn output houtput

end Conducts

omit [Host σ] in
theorem conducts_openTerminal (s : Session σ) : s.Conducts s.openTerminal := by
  unfold openTerminal
  split
  · rename_i hunopened
    split
    · refine ⟨[.openTerminal true], World.selected_record _ _, ?_⟩
      rw [hunopened]
      exact .session [] (by simp)
    · refine ⟨[.openTerminal false], ?_, ?_⟩
      · exact (World.terminalEvents_debug _ _ _).trans (World.selected_record _ _)
      · rw [hunopened]
        exact .refuse
  · exact .of_kept rfl rfl

/-! ### Actions -/

/-- An activity on another stream leaves the terminal alone. -/
theorem conducts_attempt {stream : Stream} (hstream : stream ≠ .terminal) {activity : Act σ Unit}
    (h : ∀ {R : Scene σ → Scene σ → Prop}, Scene.Admits stream R →
      (∀ s, R s { s with lineReset := true }) → Act.Within R activity) (s : Session σ) :
    s.Conducts (s.attempt activity).2 :=
  .of_kept rfl (h (Scene.admits_selected (ignores_isTerminal hstream)) (fun _ ↦ rfl) s.scene)

theorem conducts_withTerminal {activity : Act σ Unit}
    (h : ∀ {R : Scene σ → Scene σ → Prop}, Scene.Admits .terminal R →
      (∀ s, R s { s with lineReset := true }) → Act.Within R activity) (s : Session σ) :
    s.Conducts (s.withTerminal activity).2 := by
  have hopen := conducts_openTerminal s
  unfold withTerminal
  dsimp only
  split
  · rename_i hopened
    refine hopen.trans (.of_outputs hopened hopened ?_)
    exact h Scene.admits_outputs (fun s ↦ .refl s.world) s.openTerminal.scene
  · exact hopen

theorem conducts_perform {s : Session σ} (hapart : s.engine.console.Apart) (isWrite : Bool)
    (action : Action) : s.Conducts (s.perform isWrite action).2 := by
  have hother (haction : action.isOutput = false) : s.Conducts (s.perform isWrite action).2 := by
    refine .of_kept ?_ ?_
    · rw [engine_perform]
      cases action <;> first | rfl | cases haction
    · have hkept := selected_perform_of_not_isOutput
        (ignores_isTerminal (by decide : Stream.stdout ≠ .terminal)) haction isWrite s
      rw [List.filter_eq_nil_iff.2 fun event hmem ↦ ?_, List.append_nil] at hkept
      · exact hkept
      · rw [← Action.filter_isDeed_deeds] at hmem
        have hdeed := (List.mem_filter.1 hmem).2
        cases event <;> first | exact Bool.false_ne_true | cases hdeed
  cases action with
  | dot => exact conducts_attempt hapart.listing (fun hR _ ↦ .put hR _) s
  | bell => exact conducts_withTerminal (fun hR _ ↦ .put hR _) s
  | echo => exact conducts_attempt hapart.diagnostics (fun hR hreturn ↦ .echo hreturn hR _ _ _) s
  | echoText template =>
    exact conducts_attempt hapart.diagnostics (fun hR hreturn ↦ .echo hreturn hR _ _ _) s
  | ttyText template =>
    exact conducts_withTerminal (fun hR hreturn ↦ .ttyText hreturn hR _ _ _) s
  | _ => exact hother rfl

theorem conducts_carryOut {s : Session σ} (hapart : s.engine.console.Apart) (isWrite : Bool)
    (action : Action) : s.Conducts (s.carryOut isWrite action) := by
  have hperform := conducts_perform hapart isWrite action
  obtain h | ⟨message, h⟩ := carryOut_cases isWrite action s <;> rw [h]
  · exact hperform
  · exact hperform.trans (.of_kept rfl (World.terminalEvents_debug _ engineModule message))

/-- A program conducts itself well, whatever fails in it. -/
theorem conducts_carryOutAll {s : Session σ} (hapart : s.engine.console.Apart) (isWrite : Bool)
    (program : List Action) : s.Conducts (s.carryOutAll isWrite program) := by
  induction program generalizing s with
  | nil => exact .of_kept rfl rfl
  | cons action rest ih =>
    refine (conducts_carryOut hapart isWrite action).trans (ih ?_)
    rwa [(sameWork_carryOut isWrite action s).console]

/-! ### Calls -/

omit [Host σ] in
theorem conducts_compile (spec : String) (s : Session σ) : s.Conducts (s.compile spec).2 := by
  refine .of_kept ?_ (selected_compile (ignores_isTerminal (by decide : Stream.stderr ≠ _)).log spec s)
  obtain hkept | ⟨action, -, happend⟩ := engine_compile_cases spec s
  · rw [hkept]
  · rw [happend]
    rfl

omit [Host σ] in
theorem conducts_start (s : Session σ) : s.Conducts s.start := by
  have hstart := selected_start (ignores_isTerminal (by decide : Stream.stderr ≠ _)).log s
  exact .of_kept rfl (hstart.trans (List.append_nil _))

omit [Host σ] in
theorem conducts_finishCompile (s : Session σ) : s.Conducts s.finishCompile.2 := by
  by_cases hphase : s.engine.phase = .compiling
  · rw [finishCompile_of_compiling hphase]
    exact (conducts_start s).trans (.of_kept rfl rfl)
  cases hlacks : s.engine.lacksProgram with
  | false =>
    rw [finishCompile_of_not_lacksProgram hphase hlacks]
    exact .of_kept rfl rfl
  | true =>
    cases hsealed : s.engine.isSealed with
    | true =>
      rw [finishCompile_of_isSealed hsealed hlacks]
      exact .of_kept rfl rfl
    | false =>
      rw [finishCompile_of_lacksProgram hsealed hlacks]
      exact ((conducts_compile "echo" s).trans (conducts_start _)).trans (.of_kept rfl rfl)

theorem conducts_tick {s : Session σ} (hapart : s.engine.console.Apart) (isWrite : Bool) :
    s.Conducts (s.tick isWrite).2 := by
  obtain htick | ⟨htick, -⟩ := tick_callActions isWrite s
  · rw [htick]
    have hcount : s.Conducts s.count := .of_kept rfl rfl
    exact hcount.trans (conducts_carryOutAll (s := s.count) hapart isWrite _)
  · rw [htick]
    exact .of_kept rfl rfl

/-- Every call but the end of a run conducts itself well. -/
theorem conducts_next {s : Session σ} (hapart : s.engine.console.Apart) {call : Call σ}
    (hcall : call ≠ .finish) : s.Conducts (s.next call) := by
  cases call with
  | compile spec => exact conducts_compile spec s
  | finishCompile => exact conducts_finishCompile s
  | tick isWrite => exact conducts_tick hapart isWrite
  | finish => exact absurd rfl hcall
  | meanwhile world host terminal => exact .of_kept rfl rfl

end Session

/-- No turn of an engine joins the streams of its console. -/
theorem Engine.Turn.apart {e f : Engine} (h : e.Turn f) (hapart : e.console.Apart) :
    f.console.Apart := by
  cases h with
  | surround terminal => exact ⟨hapart.listing, hapart.diagnostics⟩
  | _ => exact hapart

namespace Session

theorem apart_steps {s : Session σ} (hapart : s.engine.console.Apart) (calls : List (Call σ)) :
    (s.steps calls).engine.console.Apart := by
  induction calls generalizing s with
  | nil => exact hapart
  | cons call rest ih => exact ih ((turn_next s call).apart hapart)

/-- A row of calls without an end conducts itself well. -/
theorem conducts_steps {s : Session σ} (hapart : s.engine.console.Apart) {period : List (Call σ)}
    (hperiod : .finish ∉ period) : s.Conducts (s.steps period) := by
  induction period generalizing s with
  | nil => exact .of_kept rfl rfl
  | cons call rest ih =>
    rw [List.mem_cons, not_or] at hperiod
    have hcall : call ≠ .finish := fun h ↦ hperiod.1 h.symm
    exact (conducts_next hapart hcall).trans (ih ((turn_next s call).apart hapart) hperiod.2)

end Session

/-! ## The end of a run -/

namespace Act

omit [Host σ] in
/-- A line that is too wide cannot be blanked, and nothing is written of it. -/
theorem run_clearLine_of_wide {s : Scene σ} (h : maxPadding < s.world.window .terminal) :
    clearLine.run.run s = (.error .crash, s) := by
  unfold World.window at h
  unfold clearLine
  rw [run_bind, run_width]
  dsimp only
  rw [if_pos h, run_bind, run_throw]

omit [Host σ] in
theorem clearLine_ne_crash {s : Scene σ} (h : s.world.window .terminal ≤ maxPadding) :
    (clearLine.run.run s).1 ≠ .error .crash := by
  unfold World.window at h
  unfold clearLine
  rw [run_bind, run_width]
  dsimp only
  rw [if_neg (Nat.not_lt.2 h)]
  exact Calm.put .terminal _ s

end Act

namespace Session

omit [Host σ] in
theorem clearLine_of_wide {s : Session σ} (h : maxPadding < s.world.window .terminal) :
    s.clearLine = (.error .crash, s) := by
  unfold clearLine attempt
  rw [Act.run_clearLine_of_wide (s := s.scene) h]
  rfl

omit [Host σ] in
/-- A line that is not too wide may fail to be cleared, but that is no fault. -/
theorem clearLine_of_fits {s : Session σ} (h : s.world.window .terminal ≤ maxPadding) :
    s.clearLine.1 = .ok () := by
  have hcalm := Act.clearLine_ne_crash (s := s.scene) h
  unfold clearLine attempt
  rcases hrun : Act.clearLine.run.run s.scene with ⟨(cause | _) | _, last⟩
  · rfl
  · rw [hrun] at hcalm
    exact absurd rfl hcalm
  · rfl

theorem outputs_clearLine (s : Session σ) : s.world.Outputs s.clearLine.2.world := by
  have hattempt : s.world.Outputs (s.attempt Act.clearLine).2.world :=
    Act.Within.clearLine Scene.admits_outputs s.scene
  unfold clearLine
  split <;> rename_i h <;> rw [h] at hattempt
  · exact hattempt
  · exact hattempt.trans (.debug _ _ _)
  · exact hattempt

/-- Lines in a window that is not too wide are cleared one after the other without a fault. -/
theorem clearLines_of_fits (times : Nat) {s : Session σ}
    (h : s.world.window .terminal ≤ maxPadding) :
    (s.clearLines times).1 = .ok () ∧ s.world.Outputs (s.clearLines times).2.world := by
  induction times generalizing s with
  | zero => exact ⟨rfl, .refl _⟩
  | succ times ih =>
    have hresult := clearLine_of_fits h
    have houtputs := outputs_clearLine s
    rw [clearLines]
    rcases hclear : s.clearLine with ⟨cause | done, cleared⟩
    · rw [hclear] at hresult
      cases hresult
    · rw [hclear] at houtputs
      obtain ⟨hrest, hmore⟩ := ih (s := cleared) ((houtputs.window ▸ h))
      exact ⟨hrest, houtputs.trans hmore⟩

omit [Host σ] in
/-- An open terminal is flushed and closed, and any other is left alone. -/
theorem terminalEvents_closeTerminal (s : Session σ) :
    s.closeTerminal.world.terminalEvents =
      s.world.terminalEvents ++
        if s.engine.slot = .opened then [.flush .terminal, .closeTerminal] else [] := by
  unfold closeTerminal
  cases s.engine.slot with
  | opened =>
    change ((s.world.record (.flush .terminal)).record .closeTerminal).selected isTerminal = _
    rw [World.selected_record, World.selected_record, List.append_assoc]
    rfl
  | _ => exact (List.append_nil _).symm

/-- The line on the terminal has to be blanked, and is too wide for that. -/
structure Overwide (s : Session σ) : Prop where
  slot : s.engine.slot = .opened
  isDirty : s.engine.isDirty = true
  window : maxPadding < s.world.window .terminal

omit [Host σ] in
theorem interval_ne_zero_of_opened {given : Nat} {s : Session σ} (hlaw : s.engine.LifeCycle given)
    (hslot : s.engine.slot = .opened) : s.engine.interval ≠ 0 := by
  have hrunning : s.engine.phase = .running := by
    by_contra hidle
    have hunopened := (hlaw.of_not_running hidle).2.1
    rw [hslot] at hunopened
    cases hunopened
  exact (hlaw.interval_of_running hrunning).2

/-- All lines that are pending are cleared without a fault, unless they are too wide. -/
theorem clearLines_pendingClears {s : Session σ} (h : ¬ s.Overwide) :
    (s.clearLines (pendingClears s.engine)).1 = .ok () ∧
      s.world.Outputs (s.clearLines (pendingClears s.engine)).2.world := by
  by_cases hpending : s.engine.isDirty = true ∧ s.engine.slot = .opened
  · have hfits : s.world.window .terminal ≤ maxPadding :=
      Nat.not_lt.1 fun hwide ↦ h ⟨hpending.2, hpending.1, hwide⟩
    exact clearLines_of_fits _ hfits
  · have hnone : pendingClears s.engine = 0 := if_neg hpending
    rw [hnone]
    exact ⟨rfl, .refl _⟩

omit [Host σ] in
/-- A line that is too wide to be blanked is a fault, and everything stays as it was. -/
theorem finish_of_overwide {given : Nat} {s : Session σ} (hlaw : s.engine.LifeCycle given)
    (h : s.Overwide) : s.finish = (.error .crash, s) := by
  obtain ⟨times, htimes⟩ :=
    Nat.exists_eq_succ_of_ne_zero (Nat.ne_of_gt ((pendingClears_pos_iff hlaw h.slot).2 h.isDirty))
  unfold finish
  rw [if_neg (interval_ne_zero_of_opened hlaw h.slot), htimes, clearLines, clearLine_of_wide h.window]

/-- Otherwise the terminal is released. -/
theorem finish_of_not_overwide {given : Nat} {s : Session σ} (hlaw : s.engine.LifeCycle given)
    (h : ¬ s.Overwide) :
    s.finish.1 = .ok () ∧ s.finish.2.engine.slot = .unopened ∧
      ∃ log, s.finish.2.world.terminalEvents = s.world.terminalEvents ++ log ∧
        s.engine.slot.Release log := by
  obtain ⟨hresult, houtputs⟩ := clearLines_pendingClears h
  have hengine := engine_clearLines (pendingClears s.engine) s
  obtain ⟨output, houtput, hevents⟩ := houtputs.events
  unfold finish
  by_cases hidle : s.engine.interval = 0
  · have hslot : s.engine.slot ≠ .opened := fun hslot ↦ interval_ne_zero_of_opened hlaw hslot hidle
    have hphase : s.engine.phase ≠ .running := fun h ↦ (hlaw.interval_of_running h).2 hidle
    rw [if_pos hidle]
    exact ⟨rfl, (hlaw.of_not_running hphase).2.1, [], (List.append_nil _).symm, .untouched hslot⟩
  rw [if_neg hidle]
  rcases hrun : s.clearLines (pendingClears s.engine) with ⟨cause | done, cleared⟩
  · rw [hrun] at hresult
    cases hresult
  rw [hrun] at hevents hengine
  dsimp only at hevents hengine ⊢
  refine ⟨rfl, by rw [engine_closeTerminal], ?_⟩
  rw [terminalEvents_closeTerminal, hengine, hevents, List.append_assoc]
  by_cases hslot : s.engine.slot = .opened
  · rw [if_pos hslot, hslot]
    exact ⟨_, rfl, .closed output houtput⟩
  · have hnone : pendingClears s.engine = 0 := if_neg fun hboth ↦ hslot hboth.2
    rw [hnone] at hrun
    cases hrun
    have hempty : output = [] := List.self_eq_append_right.1 hevents
    rw [if_neg hslot, hempty]
    exact ⟨_, rfl, .untouched hslot⟩

/-- A run that has ended well has let the terminal go. -/
theorem slot_finish_of_ok {given : Nat} {s : Session σ} (hlaw : s.engine.LifeCycle given)
    (hok : s.finish.1 = .ok ()) : s.finish.2.engine.slot = .unopened := by
  by_cases hwide : s.Overwide
  · rw [finish_of_overwide hlaw hwide] at hok
    cases hok
  · exact (finish_of_not_overwide hlaw hwide).2.1

/-! ## The law -/

/-- From one session to another, output on the terminal stands between openings and closings. -/
def Brackets (s t : Session σ) : Prop :=
  ∃ log, t.world.terminalEvents = s.world.terminalEvents ++ log ∧
    log.foldlM follow (s.engine.slot == .opened) = some (t.engine.slot == .opened)

omit [Host σ] in
theorem Conducts.brackets {s t : Session σ} (h : s.Conducts t) : s.Brackets t := by
  obtain ⟨log, hevents, hlog⟩ := h
  exact ⟨log, hevents, hlog.foldlM_follow⟩

omit [Host σ] in
theorem Brackets.trans {s t u : Session σ} (hfirst : s.Brackets t) (hsecond : t.Brackets u) :
    s.Brackets u := by
  obtain ⟨log, ht, hlog⟩ := hfirst
  obtain ⟨more, hu, hmore⟩ := hsecond
  refine ⟨log ++ more, by rw [hu, ht, List.append_assoc], ?_⟩
  rw [List.foldlM_append, hlog]
  exact hmore

/-- The end of a run keeps to the order of opening and closing. -/
theorem brackets_finish {given : Nat} {s : Session σ} (hlaw : s.engine.LifeCycle given) :
    s.Brackets s.finish.2 := by
  by_cases hwide : s.Overwide
  · rw [finish_of_overwide hlaw hwide]
    exact (Conducts.of_kept rfl rfl).brackets
  · obtain ⟨-, hreleased, log, hevents, hlog⟩ := finish_of_not_overwide hlaw hwide
    refine ⟨log, hevents, ?_⟩
    rw [hreleased]
    exact hlog.foldlM_follow

/-- A row of calls keeps to the order of opening and closing. -/
theorem brackets_steps {given : Nat} {s : Session σ} (hstage : s.engine.Stage given)
    (hapart : s.engine.console.Apart) (calls : List (Call σ)) : s.Brackets (s.steps calls) := by
  induction calls generalizing s with
  | nil => exact (Conducts.of_kept rfl rfl).brackets
  | cons call rest ih =>
    have hturn := turn_next s call
    have hrest := ih (hstage.turn hturn) (hturn.apart hapart)
    by_cases hcall : call = .finish
    · rw [hcall] at hrest ⊢
      exact (brackets_finish hstage.lifeCycle).trans hrest
    · exact (conducts_next hapart hcall).brackets.trans hrest

/-- What a row of calls adds to the events at the terminal. -/
def terminalLog (calls : List (Call σ)) (s : Session σ) : List Event :=
  (s.steps calls).world.terminalEvents.drop s.world.terminalEvents.length

/-- What is added to the events of the terminal is the log of the calls. -/
theorem terminalLog_eq (calls : List (Call σ)) {s : Session σ} {log : List Event}
    (h : (s.steps calls).world.terminalEvents = s.world.terminalEvents ++ log) :
    s.terminalLog calls = log := by
  rw [terminalLog, h, List.drop_left]

theorem terminalLog_of_next_eq {call : Call σ} {s : Session σ} (h : s.next call = s) :
    s.terminalLog [call] = [] := by
  rw [terminalLog, steps_cons, h, steps_nil, List.drop_length]

/-- The end of a run does not open the terminal. -/
theorem not_attempt_finish {given : Nat} {s : Session σ} (hlaw : s.engine.LifeCycle given)
    (isOpen : Bool) : .openTerminal isOpen ∉ s.terminalLog [.finish] := by
  by_cases hwide : s.Overwide
  · have hkept : s.next .finish = s := congrArg Prod.snd (finish_of_overwide hlaw hwide)
    rw [terminalLog_of_next_eq hkept]
    exact List.not_mem_nil
  · obtain ⟨-, -, log, hevents, hlog⟩ := finish_of_not_overwide hlaw hwide
    rw [terminalLog_eq [.finish] hevents]
    exact hlog.not_attempt isOpen

/-- Apart from ticks and ends of the run, nothing changes the slot of the terminal. -/
theorem slot_next {s : Session σ} {call : Call σ} (htick : ∀ isWrite, call ≠ .tick isWrite)
    (hfinish : call ≠ .finish) : (s.next call).engine.slot = s.engine.slot := by
  cases call with
  | compile spec =>
    change (s.compile spec).2.engine.slot = _
    obtain hkept | ⟨action, -, happend⟩ := engine_compile_cases spec s
    · rw [hkept]
    · rw [happend]
      rfl
  | finishCompile =>
    change s.finishCompile.2.engine.slot = _
    obtain ⟨-, h⟩ | ⟨-, -, h⟩ | ⟨-, -, h⟩ | ⟨-, h⟩ := finishCompile_cases s <;> rw [h] <;> rfl
  | tick isWrite => exact absurd rfl (htick isWrite)
  | finish => exact absurd rfl hfinish
  | meanwhile world host terminal => rfl

/-- The terminal is tried by ticks only that run a program with an action on it. -/
theorem fires_of_attempt {given : Nat} {s : Session σ} (hlaw : s.engine.LifeCycle given)
    (hapart : s.engine.console.Apart) {call : Call σ} {isOpen : Bool}
    (h : .openTerminal isOpen ∈ s.terminalLog [call]) :
    ∃ isWrite, call = .tick isWrite ∧ s.engine.isSealed = true ∧ s.engine.isEnabled = true ∧
      s.count.engine.isDue = true ∧
      (.bell ∈ s.engine.program ∨ ∃ template, .ttyText template ∈ s.engine.program) := by
  have hfinish : call ≠ .finish := by
    rintro rfl
    exact not_attempt_finish hlaw isOpen h
  obtain ⟨log, hevents, hconduct⟩ := conducts_next hapart hfinish
  rw [terminalLog_eq [call] hevents] at h
  obtain ⟨hbefore, hafter⟩ := hconduct.of_attempt h
  by_cases htick : ∃ isWrite, call = .tick isWrite
  · obtain ⟨isWrite, rfl⟩ := htick
    obtain hrun | ⟨hkept, -⟩ := tick_callActions isWrite s
    · change (s.tick isWrite).2.engine.slot ≠ .unopened at hafter
      rw [hrun] at hafter
      obtain hcounted | ⟨action, hmem, huses⟩ := exists_usesTerminal_of_carryOutAll hafter
      · exact absurd hbefore hcounted
      · obtain ⟨hsealed, henabled, hdue⟩ := fires_of_mem_callActions hmem
        exact ⟨isWrite, rfl, hsealed, henabled, hdue,
          Engine.bell_or_exists_ttyText ⟨action, mem_program_of_mem_callActions hmem, huses⟩⟩
    · change (s.tick isWrite).2.engine.slot ≠ .unopened at hafter
      rw [hkept] at hafter
      exact absurd hbefore hafter
  · rw [slot_next (fun isWrite heq ↦ htick ⟨isWrite, heq⟩) hfinish] at hafter
    exact absurd hbefore hafter

/-- The law of the terminal, for a row of calls and a period after it that does not end the run. -/
structure TerminalLaw (first : Session σ) (before period : List (Call σ)) : Prop where
  /-- The log misses nothing. -/
  complete : (first.steps (before ++ period)).world.terminalEvents =
    first.world.terminalEvents ++ first.terminalLog (before ++ period)
  /-- Output stands between an opening and the next closing, and the slot tells whether the terminal
  is open. -/
  bracketed : (first.terminalLog (before ++ period)).foldlM follow false =
    some ((first.steps (before ++ period)).engine.slot == .opened)
  /-- The terminal has not been tried at first, nor after an end of the run. -/
  untried : (before = [] ∨
      ∃ earlier, before = earlier ++ [.finish] ∧ (first.steps earlier).finish.1 = .ok ()) →
    (first.steps before).engine.slot = .unopened
  /-- In the period it is left alone, or tried in vain and then left alone, or opened if need be and
  used; and the slot tells which. -/
  conduct : (first.steps before).engine.slot.Conduct ((first.steps before).terminalLog period)
    (first.steps (before ++ period)).engine.slot
  /-- It is tried by ticks only that run a program with an action on it. -/
  attempt : ∀ call isOpen,
    .openTerminal isOpen ∈ (first.steps (before ++ period)).terminalLog [call] →
      ∃ isWrite, call = .tick isWrite ∧
        let s := first.steps (before ++ period)
        s.engine.isSealed = true ∧ s.engine.isEnabled = true ∧ s.count.engine.isDue = true ∧
          (.bell ∈ s.engine.program ∨ ∃ template, .ttyText template ∈ s.engine.program)
  /-- The end of the run succeeds and releases it, but for a line that is too wide to be blanked. -/
  release : ¬ (first.steps (before ++ period)).Overwide →
    (first.steps (before ++ period)).finish.1 = .ok () ∧
      (first.steps (before ++ period)).finish.2.engine.slot = .unopened ∧
      (first.steps (before ++ period)).engine.slot.Release
        ((first.steps (before ++ period)).terminalLog [.finish])
  /-- Such a line is a fault, and everything stays as it was. -/
  fault : (first.steps (before ++ period)).Overwide →
    (first.steps (before ++ period)).finish = (.error .crash, first.steps (before ++ period))

/-- The law of the terminal holds for every row of calls on a fresh engine, whichever of them end in a
fault. -/
theorem terminalLaw_steps_fresh (given : Nat) (console : Console) (world : World) (host : σ)
    (before period : List (Call σ)) (hapart : console.Apart) (hperiod : .finish ∉ period) :
    (fresh given console world host).TerminalLaw before period := by
  have hfresh := stage_steps_fresh given console world host []
  have hlaw (calls : List (Call σ)) := stage_steps_fresh given console world host calls
  have hkept (calls : List (Call σ)) := apart_steps (s := fresh given console world host) hapart calls
  obtain ⟨log, hevents, hlog⟩ := brackets_steps hfresh hapart (before ++ period)
  obtain ⟨output, hmore, hconduct⟩ := conducts_steps (hkept before) hperiod
  rw [steps_nil] at hevents hlog
  refine
    { complete := by rw [terminalLog_eq _ hevents, hevents]
      bracketed := by
        rw [terminalLog_eq _ hevents]
        exact hlog
      untried := ?_
      conduct := by rwa [terminalLog_eq _ hmore, steps_append]
      attempt := fun call isOpen ↦ fires_of_attempt (hlaw _).lifeCycle (hkept _)
      release := fun hnarrow ↦ ?_
      fault := finish_of_overwide (hlaw _).lifeCycle }
  · rintro (rfl | ⟨earlier, rfl, hok⟩)
    · rfl
    · rw [steps_append]
      exact slot_finish_of_ok (hlaw earlier).lifeCycle hok
  · obtain ⟨hresult, hreleased, log, hevents, hlog⟩ :=
      finish_of_not_overwide (hlaw _).lifeCycle hnarrow
    rw [terminalLog_eq [.finish] hevents]
    exact ⟨hresult, hreleased, hlog⟩

/-- A terminal that was let go is opened again by the next bell. -/
theorem conduct_of_reopened :
    TerminalSlot.Conduct .unopened
      (((fresh 1 ⟨.listing, .diagnostics, .ok {}⟩ {} ({} : ScriptedHost)).steps
        [.compile "bell", .finishCompile, .tick true, .finish]).terminalLog [.tick true])
      .opened := by
  have hlaw := terminalLaw_steps_fresh 1 ⟨.listing, .diagnostics, .ok {}⟩ {} ({} : ScriptedHost)
    [.compile "bell", .finishCompile, .tick true, .finish] [.tick true] ⟨by decide, by decide⟩
    (by simp)
  have hbefore := hlaw.untried
    (.inr ⟨[.compile "bell", .finishCompile, .tick true], rfl, by decide +kernel⟩)
  have hafter : ((fresh 1 ⟨.listing, .diagnostics, .ok {}⟩ {} ({} : ScriptedHost)).steps
      ([.compile "bell", .finishCompile, .tick true, .finish] ++ [.tick true])).engine.slot =
        .opened := by
    decide +kernel
  have hconduct := hlaw.conduct
  rwa [hbefore, hafter] at hconduct

/-- In a window that is wider than what can be blanked at once, the end of a run after a carriage
return neither flushes nor closes the terminal. -/
theorem opened_of_wide_window :
    let first := fresh 1 ⟨.listing, .diagnostics, .ok { width := some 65536 }⟩ {}
      ({} : ScriptedHost)
    let s := first.steps [.compile "ttyout=\\r", .finishCompile, .tick true]
    s.engine.slot = .opened ∧ s.finish.1 = .error .crash ∧ s.terminalLog [.finish] = [] ∧
      s.finish.2.engine.slot = .opened := by
  decide +kernel

end Session

end ProgressActions
