import ProgressActions.Proofs.HostCalls
import ProgressActions.Proofs.Isolation
import ProgressActions.Run

/-!
# Errors that are reported

An archive counts the errors that it is told about, and only renderings tell it of any: those whose
templates ask for totals with labels that cannot be split. Whatever else fails, a terminal, a stream or
a command, is no error of the archive. So across each part of a run, the errors that are counted are
the reports in the trace, and each of them is a complaint of an action of the program.
-/

namespace ProgressActions

variable {μ : Type}

open Event

def Event.isReport : Event → Bool
  | reportError _ => true
  | _ => false

theorem Event.calls_isReport : Calls isReport := by
  intro event h
  cases event <;> first | rfl | cases h

/-- The errors that an action gives cause to report. -/
def Action.complaints : Action → List String
  | echoText template => Template.complaints template.toList
  | ttyText template => Template.complaints template.toList
  | _ => []

def Move.ReportsOnly (messages : List String) : Move → Prop
  | .reportError message => message ∈ messages
  | _ => True

/-- The moves of a rendering report nothing but what its template is reported for. -/
theorem Move.renders_reportsOnly (messages : List String) (stream : Stream) :
    Move.Renders stream (Move.ReportsOnly messages) :=
  ⟨fun _ ↦ trivial, trivial, trivial, fun _ _ ↦ trivial, trivial⟩

/-- Between two scenes, errors have been reported and counted, each of them one of some messages. -/
def Scene.Reported (messages : List String) (s t : Scene (Archive μ)) : Prop :=
  ∃ reports : List String, reports ⊆ messages ∧
    t.world.selected isReport = s.world.selected isReport ++ reports.map .reportError ∧
    t.host.errors = s.host.errors + reports.length

namespace Scene.Reported

variable {messages : List String} {s t u : Scene (Archive μ)}

theorem of_kept (hworld : t.world.selected isReport = s.world.selected isReport)
    (hhost : t.host.errors = s.host.errors) : s.Reported messages t :=
  ⟨[], List.nil_subset messages, by simp [hworld], by simp [hhost]⟩

theorem trans (hfirst : s.Reported messages t) (hsecond : t.Reported messages u) :
    s.Reported messages u := by
  obtain ⟨early, hearly, hbefore, hcount⟩ := hfirst
  obtain ⟨late, hlate, hafter, hmore⟩ := hsecond
  refine ⟨early ++ late, List.append_subset.2 ⟨hearly, hlate⟩, ?_, ?_⟩
  · rw [hafter, hbefore, List.map_append, List.append_assoc]
  · rw [hmore, hcount, List.length_append, Nat.add_assoc]

variable [Launch.Place μ]

/-- The archive counts what is reported to it. -/
theorem move {m : Move} (h : m.ReportsOnly messages) : s.Reported messages (s.move m) := by
  have hselected := Scene.selected_move calls_isReport s m
  cases m with
  | reportError message =>
    exact ⟨[message], by simpa [Move.ReportsOnly] using h, hselected, rfl⟩
  | write stream content => exact of_kept (World.selected_write (calls_isReport.write stream) _) rfl
  | flush stream => exact of_kept (World.selected_record_of_not rfl _) rfl
  | returnLine => exact of_kept rfl rfl
  | _ => exact of_kept (hselected.trans (List.append_nil _)) rfl

theorem run {activity : Act (Archive μ) Unit}
    (h : Act.MadeOf (Move.ReportsOnly messages) activity) (s : Scene (Archive μ)) :
    s.Reported messages (activity.run.run s).2 := by
  obtain ⟨row, hrow, hrun⟩ := h.exists_moves s
  rw [hrun]
  exact moves_of_kept (Move.ReportsOnly messages) (fun t ↦ s.Reported messages t)
    (fun t m hm ht ↦ ht.trans (move hm)) hrow (of_kept rfl rfl)

end Scene.Reported

/-! ## Sessions -/

/-- A tick keeps the program. -/
theorem Session.program_tick {σ : Type} [Host σ] (isWrite : Bool) (s : Session σ) :
    (s.tick isWrite).2.engine.program = s.engine.program := by
  obtain ⟨-, -, -, htick⟩ | ⟨-, -, -, htick⟩ | ⟨-, htick⟩ := tick_cases isWrite s
  · obtain ⟨walked, -, hsession, -⟩ := performAll_walk isWrite s.engine.program s.count
    rw [htick, hsession]
    exact (sameWork_carryOutAll isWrite walked s.count).program
  · rw [htick]
    rfl
  · rw [htick]

/-- Between two sessions nothing of a kind happens, and nothing is asked of the host. -/
structure Session.Quiet {σ : Type} (kind : Event → Bool) (s t : Session σ) : Prop where
  selected : t.world.selected kind = s.world.selected kind
  host : t.host = s.host

namespace Session.Quiet

variable {σ : Type} {kind : Event → Bool} {s t u : Session σ}

theorem refl (s : Session σ) : Quiet kind s s := ⟨rfl, rfl⟩

theorem trans (hfirst : Quiet kind s t) (hsecond : Quiet kind t u) : Quiet kind s u :=
  ⟨hsecond.selected.trans hfirst.selected, hsecond.host.trans hfirst.host⟩

section Log

variable (h : ∀ content, kind (.write .stderr content) = false)

include h

theorem compile (spec : String) (s : Session σ) : Quiet kind s (s.compile spec).2 :=
  ⟨selected_compile h spec s, host_compile spec s⟩

theorem compileAll (specs : List String) (s : Session (Archive μ)) :
    Quiet kind s (Run.compileAll specs s).2 := by
  induction specs generalizing s with
  | nil => exact refl s
  | cons spec rest ih =>
    have hfirst := compile h spec s
    rw [Run.compileAll]
    split
    · rename_i next hcompile
      rw [hcompile] at hfirst
      exact hfirst.trans (ih next)
    · exact hfirst

theorem finishCompile (hblock : ∀ signals, kind (.block signals) = false) (s : Session σ) :
    Quiet kind s s.finishCompile.2 := by
  have hsupplied : Quiet kind s (if s.engine.lacksProgram then s.compile "echo" else (.ok (), s)).2 := by
    split
    · exact compile h "echo" s
    · exact refl s
  have hstarted (r : Session σ) : Quiet kind r (if r.engine.phase = .compiling then r.start else r) := by
    split
    · have hnone : [Event.block r.engine.signals.toList].filter kind = [] := by simp [hblock]
      exact ⟨by rw [selected_start h, hnone, List.append_nil], rfl⟩
    · exact refl r
  unfold Session.finishCompile
  generalize (if s.engine.lacksProgram then s.compile "echo" else (.ok (), s)) = answer at hsupplied ⊢
  obtain ⟨cause | _, supplied⟩ := answer
  · exact hsupplied
  · exact (hsupplied.trans (hstarted supplied)).trans ⟨rfl, rfl⟩

end Log

end Session.Quiet

/-- Between two sessions, errors have been reported and counted, each of them one of some messages. -/
def Session.Reported (messages : List String) (s t : Session (Archive μ)) : Prop :=
  s.scene.Reported messages t.scene

namespace Session.Reported

variable {messages : List String} {s t u : Session (Archive μ)}

theorem of_kept (hworld : t.world.selected isReport = s.world.selected isReport)
    (hhost : t.host.errors = s.host.errors) : s.Reported messages t :=
  Scene.Reported.of_kept hworld hhost

theorem refl (s : Session (Archive μ)) : s.Reported messages s := of_kept rfl rfl

theorem trans (hfirst : s.Reported messages t) (hsecond : t.Reported messages u) :
    s.Reported messages u :=
  Scene.Reported.trans hfirst hsecond

theorem debug (moduleName message : String) (s : Session (Archive μ)) :
    s.Reported messages (s.onWorld (·.debug moduleName message)) :=
  of_kept (World.selected_debug (calls_isReport.write .stderr) s.world moduleName message) rfl

theorem pause (time : Duration) (s : Session (Archive μ)) :
    s.Reported messages (s.onWorld (·.pause time)) :=
  of_kept (World.selected_pause_of_not rfl s.world) rfl

/-! ### Compiling -/

theorem of_quiet (h : Quiet isReport s t) : s.Reported messages t :=
  of_kept h.selected (congrArg Archive.errors h.host)

theorem compileAll (specs : List String) (s : Session (Archive μ)) :
    s.Reported messages (Run.compileAll specs s).2 :=
  of_quiet (.compileAll (calls_isReport.write .stderr) specs s)

theorem finishCompile (s : Session (Archive μ)) : s.Reported messages s.finishCompile.2 :=
  of_quiet (.finishCompile (calls_isReport.write .stderr) (fun _ ↦ calls_isReport _ rfl) s)

/-! ### Actions -/

variable [Launch.Place μ]

theorem attempt {activity : Act (Archive μ) Unit}
    (h : Act.MadeOf (Move.ReportsOnly messages) activity) (s : Session (Archive μ)) :
    s.Reported messages (s.attempt activity).2 :=
  Scene.Reported.run h s.scene

theorem withTerminal {activity : Act (Archive μ) Unit}
    (h : Act.MadeOf (Move.ReportsOnly messages) activity) (s : Session (Archive μ)) :
    s.Reported messages (s.withTerminal activity).2 := by
  have hopen : s.Reported messages s.openTerminal :=
    of_kept (selected_openTerminal_of_calls calls_isReport s)
      (congrArg Archive.errors (host_openTerminal s))
  unfold Session.withTerminal
  dsimp only
  split
  · exact hopen.trans (Scene.Reported.run h s.openTerminal.scene)
  · exact hopen

/-- The message of a bare echo, as an archive words it, gives no cause for complaint. -/
theorem complaints_echoed_none (isWrite : Bool) (a : Archive μ) :
    Template.complaints (Act.echoed isWrite none a) = [] := by
  have hwrite : Template.complaints Template.writeMessage.toList = [] := by decide +kernel
  have hread : Template.complaints Template.readMessage.toList = [] := by decide +kernel
  cases isWrite with
  | true => exact hwrite
  | false => exact hread

theorem perform {action : Action} (h : action.complaints ⊆ messages) (isWrite : Bool)
    (s : Session (Archive μ)) : s.Reported messages (s.perform isWrite action).2 := by
  have hrenders := Move.renders_reportsOnly messages
  cases action with
  | dot => exact attempt (.put (fun _ ↦ trivial) trivial _) s
  | bell => exact withTerminal (.put (fun _ ↦ trivial) trivial _) s
  | echo =>
    refine attempt (.echo (hrenders _) _ _ fun a message hmessage ↦ ?_) s
    rw [complaints_echoed_none] at hmessage
    cases hmessage
  | echoText template =>
    have hreports : ∀ a : Archive μ, ∀ message ∈
        Template.complaints (Act.echoed isWrite (some template) a),
        Move.ReportsOnly messages (.reportError message) := fun _ _ hmessage ↦ h hmessage
    exact attempt (.echo (hrenders _) _ _ hreports) s
  | ttyText template => exact withTerminal (.ttyText (hrenders _) _ _ fun _ hmessage ↦ h hmessage) s
  | sleep seconds =>
    rw [perform_sleep]
    exact pause _ s
  | exec command => exact attempt (.exec trivial) s
  | totals => exact attempt (.freshTotals trivial trivial fun _ ↦ trivial) s
  | wait signal => exact of_kept (World.selected_record_of_not rfl s.world) rfl

theorem carryOut {action : Action} (h : action.complaints ⊆ messages) (isWrite : Bool)
    (s : Session (Archive μ)) : s.Reported messages (s.carryOut isWrite action) := by
  have hperform := perform h isWrite s
  obtain hcarry | ⟨message, hcarry⟩ := carryOut_cases isWrite action s
  · rw [hcarry]
    exact hperform
  · rw [hcarry]
    exact hperform.trans (debug engineModule message _)

theorem carryOutAll {program : List Action}
    (h : ∀ action ∈ program, action.complaints ⊆ messages) (isWrite : Bool) (s : Session (Archive μ)) :
    s.Reported messages (s.carryOutAll isWrite program) := by
  induction program generalizing s with
  | nil => exact refl s
  | cons action rest ih =>
    have hfirst := carryOut (h action List.mem_cons_self) isWrite s
    exact hfirst.trans (ih (fun other hother ↦ h other (List.mem_cons_of_mem _ hother)) _)

/-! ### Ticks and records -/

theorem tick (h : ∀ action ∈ s.engine.program, action.complaints ⊆ messages) (isWrite : Bool) :
    s.Reported messages (s.tick isWrite).2 := by
  have hcount : s.Reported messages s.count := of_kept rfl rfl
  obtain ⟨-, -, -, htick⟩ | ⟨-, -, -, htick⟩ | ⟨-, htick⟩ := tick_cases isWrite s
  · obtain ⟨walked, hwithin, hsession, -⟩ := performAll_walk isWrite s.engine.program s.count
    rw [htick, hsession]
    exact hcount.trans (carryOutAll (fun action hmem ↦ h action (hwithin.subset hmem)) isWrite _)
  · rw [htick]
    exact hcount
  · rw [htick]
    exact refl s

theorem tickAll (flags : List Bool)
    (h : ∀ action ∈ s.engine.program, action.complaints ⊆ messages) :
    s.Reported messages (s.tickAll flags).2 ∧
      (s.tickAll flags).2.engine.program = s.engine.program := by
  induction flags generalizing s with
  | nil => exact ⟨refl s, rfl⟩
  | cons isWrite rest ih =>
    have hfirst := tick h isWrite
    have hprogram := program_tick isWrite s
    rw [Session.tickAll]
    split
    · rename_i next htick
      rw [htick] at hfirst hprogram
      obtain ⟨hrest, hkept⟩ := ih (s := next) (hprogram ▸ h)
      exact ⟨hfirst.trans hrest, hkept.trans hprogram⟩
    · exact ⟨hfirst, hprogram⟩

theorem moveRecord (h : ∀ action ∈ s.engine.program, action.complaints ⊆ messages) :
    s.Reported messages (Run.moveRecord s).2 ∧
      (Run.moveRecord s).2.engine.program = s.engine.program := by
  let moved : Session (Archive μ) := { s with host := s.host.transfer }
  have hmoved : s.Reported messages moved := of_kept rfl (Archive.errors_transfer s.host)
  obtain ⟨hticks, hprogram⟩ := tickAll (s := moved) s.host.nextTicks h
  exact ⟨hmoved.trans hticks, hprogram⟩

/-- The records of a run are reported for nothing but its program. -/
theorem moveRecords (delay : Duration) (blocks : Nat)
    (h : ∀ action ∈ s.engine.program, action.complaints ⊆ messages) :
    s.Reported messages (Run.moveRecords delay blocks s).2 := by
  induction blocks generalizing s with
  | zero => exact refl s
  | succ blocks ih =>
    obtain ⟨hfirst, hprogram⟩ := moveRecord h
    rw [Run.moveRecords]
    split
    · rename_i next hmove
      rw [hmove] at hfirst hprogram
      have hrest := ih (s := next.onWorld (·.pause delay)) (hprogram ▸ h)
      exact (hfirst.trans (pause delay next)).trans hrest
    · exact hfirst

/-! ### The end of a run -/

theorem clearLine (s : Session (Archive μ)) : s.Reported messages s.clearLine.2 := by
  have hattempt : s.Reported messages (s.attempt Act.clearLine).2 :=
    attempt (.clearLine (fun _ ↦ trivial) trivial) s
  unfold Session.clearLine
  split <;> rename_i hclear <;> rw [hclear] at hattempt
  · exact hattempt
  · exact hattempt.trans (debug engineModule _ _)
  · exact hattempt

theorem clearLines (times : Nat) (s : Session (Archive μ)) :
    s.Reported messages (s.clearLines times).2 := by
  induction times generalizing s with
  | zero => exact refl s
  | succ times ih =>
    have hfirst : s.Reported messages s.clearLine.2 := clearLine s
    rw [Session.clearLines]
    split
    · rename_i cleared hclear
      rw [hclear] at hfirst
      exact hfirst.trans (ih cleared)
    · exact hfirst

theorem finish (s : Session (Archive μ)) : s.Reported messages s.finish.2 := by
  have hclose (r : Session (Archive μ)) : r.Reported messages r.closeTerminal :=
    of_kept (selected_closeTerminal_of_calls calls_isReport r)
      (congrArg Archive.errors (host_closeTerminal r))
  have hcleared : s.Reported messages (s.clearLines (pendingClears s.engine)).2 :=
    clearLines (pendingClears s.engine) s
  unfold Session.finish
  split
  · exact refl s
  · split
    · rename_i cleared hclear
      rw [hclear] at hcleared
      exact hcleared.trans (hclose cleared)
    · exact hcleared

end Session.Reported

end ProgressActions
