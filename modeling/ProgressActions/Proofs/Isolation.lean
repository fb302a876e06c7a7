import Mathlib.Data.List.Basic
import ProgressActions.Proofs.Beside
import ProgressActions.Proofs.Call
import ProgressActions.Proofs.Deeds

/-!
# Streams are isolated from each other's failures

An engine at work is driven by ticks, ends of the run and the passing of time. Two runs whose sinks
differ on one stream only, in the room for bytes and in whether they can be flushed, give the same
results as long as neither meets a fault; they do the same deeds, and all that happens on the other
streams is the same.
-/

namespace ProgressActions

open Host.Steady

variable {σ : Type}

/-! ## Sessions beside a stream -/

/-- Two engines that are alike for somebody who does not look at a stream. Whether the terminal is
dirty is seen on the terminal only. -/
structure Engine.AlikeBeside (stream : Stream) (e f : Engine) : Prop extends e.SameTask f where
  listing : f.console.listing = e.console.listing
  diagnostics : f.console.diagnostics = e.console.diagnostics
  window : f.console.terminal.map Sink.width = e.console.terminal.map Sink.width
  terminal : stream ≠ .terminal → f.console.terminal = e.console.terminal
  slot : f.slot = e.slot
  isDirty : stream ≠ .terminal → f.isDirty = e.isDirty

/-- Two sessions that are alike for somebody who does not look at a stream. -/
structure Session.AlikeBeside [Host σ] [Host.Steady σ] (stream : Stream) (s t : Session σ) :
    Prop where
  engine : s.engine.AlikeBeside stream t.engine
  world : s.world.AlikeBeside stream t.world
  host : core t.host = core s.host

/-- Another sink for the terminal, in a window of the same width. -/
theorem World.AlikeBeside.setTerminal {stream : Stream} {v w : World}
    (h : v.AlikeBeside stream w) {first second : Sink} (hwidth : second.width = first.width)
    (hsink : stream ≠ .terminal → second = first) :
    AlikeBeside stream { v with sinks := v.sinks.set .terminal first }
      { w with sinks := w.sinks.set .terminal second } where
  setting := h.setting
  sinks other hother := by
    by_cases hstream : stream = .terminal
    · rw [hstream] at hother
      rw [Sinks.get_set_of_ne hother, Sinks.get_set_of_ne hother]
      exact h.sinks other (hstream ▸ hother)
    · rw [hsink hstream]
      exact Sinks.get_set_congr (h.sinks other hother) .terminal first
  width := by
    by_cases hstream : stream = .terminal
    · rw [hstream]
      exact hwidth
    · rw [Sinks.get_set_of_ne hstream, Sinks.get_set_of_ne hstream]
      exact h.width
  seen := h.seen

/-- What comes of an attempt to open the terminal does not depend on the limits of its sink. -/
theorem TerminalSlot.settle_congr {c d : Console}
    (h : d.terminal.map Sink.width = c.terminal.map Sink.width) (slot : TerminalSlot) :
    slot.settle d = slot.settle c := by
  unfold settle
  cases slot with
  | unopened =>
    cases hc : c.terminal <;> cases hd : d.terminal <;> rw [hc, hd] at h <;> first | rfl | cases h
  | _ => rfl

theorem Session.host_openTerminal (s : Session σ) : s.openTerminal.host = s.host := by
  unfold Session.openTerminal
  split
  · split <;> rfl
  · rfl

theorem Session.host_closeTerminal (s : Session σ) : s.closeTerminal.host = s.host := by
  unfold Session.closeTerminal
  split <;> rfl

namespace Session

/-- The end of a run without a fault. -/
theorem finish_of_ne_crash {s : Session σ} (h : s.finish.1 ≠ .error .crash) :
    s.finish =
      if s.engine.interval = 0 then (.ok (), s)
      else (.ok (), (s.clearLines (pendingClears s.engine)).2.closeTerminal) := by
  have hresult := result_clearLines (pendingClears s.engine) s
  unfold finish at h ⊢
  split
  · rfl
  · rename_i hinterval
    rw [if_neg hinterval] at h
    rcases hrun : s.clearLines (pendingClears s.engine) with ⟨cause | done, cleared⟩
    · rw [hrun] at hresult h
      exact absurd (hresult.resolve_left nofun) h
    · rfl

/-- A tick without a fault. -/
theorem tick_of_ne_crash [Host σ] {isWrite : Bool} {s : Session σ}
    (h : (s.tick isWrite).1 ≠ .error .crash) :
    s.tick isWrite =
      if s.engine.isSealed = false then (.error (.refused (.lifecycle .tick s.engine.phase)), s)
      else if s.engine.isEnabled = false then (.ok (), s)
      else if s.count.engine.isDue then (.ok (), s.count.carryOutAll isWrite s.engine.program)
      else (.ok (), s.count) := by
  obtain ⟨hsealed, henabled, hdue, htick⟩ | ⟨hsealed, henabled, hdue, htick⟩ | ⟨hidle, -⟩ :=
    tick_cases isWrite s
  · rw [htick] at h
    rw [htick, performAll_of_ne_crash h]
    simp [hsealed, henabled, hdue]
  · rw [htick]
    simp [hsealed, henabled, hdue]
  · unfold tick
    obtain hopen | hquiet := hidle
    · simp [hopen]
    · simp [hquiet]

end Session

namespace Session.AlikeBeside

variable [Host σ] [Host.Steady σ] {stream : Stream} {s t : Session σ}

theorem debug_left (h : s.AlikeBeside stream t) (message : String) :
    (s.debug message).AlikeBeside stream t :=
  ⟨h.engine, (World.AlikeBeside.debug _ _ _).symm.trans h.world, h.host⟩

theorem debug_right (h : s.AlikeBeside stream t) (message : String) :
    s.AlikeBeside stream (t.debug message) :=
  ⟨h.engine, h.world.trans (.debug _ _ _), h.host⟩

theorem onWorld (h : s.AlikeBeside stream t) (f : World → World)
    (hworld : (f s.world).AlikeBeside stream (f t.world)) :
    (s.onWorld f).AlikeBeside stream (t.onWorld f) :=
  ⟨h.engine, hworld, h.host⟩

/-- Sessions alike beside a stream hand scenes to an activity that are abreast. -/
theorem abreast (h : s.AlikeBeside stream t) : s.scene.Abreast stream core t.scene :=
  ⟨h.world, h.host, rfl⟩

/-! ### Activities -/

variable {other : Stream} {activity : Act σ Unit}

/-- An activity on a stream, the same in both sessions: on the stream itself it is not seen beside it,
and on another stream it goes the same way. -/
theorem run (h : s.AlikeBeside stream t)
    (hself : ∀ {R : Scene σ → Scene σ → Prop}, Scene.Admits other R →
      (∀ s, R s { s with lineReset := true }) → Act.Within R activity)
    (hother : other ≠ stream →
      Act.Lockstep (Scene.Abreast stream core) (Scene.Abreast stream core) activity) :
    (activity.run.run s.scene).2.AlikeBeside stream (activity.run.run t.scene).2 ∧
      (other ≠ stream →
        noticesReturn (activity.run.run t.scene) = noticesReturn (activity.run.run s.scene)) := by
  by_cases hstream : other = stream
  · have hwithin : Act.Within (Scene.AlikeBeside stream) activity :=
      hself (hstream ▸ Scene.admits_alikeBeside stream) fun s ↦ ⟨.refl stream s.world, rfl⟩
    refine ⟨⟨?_, ?_⟩, fun hne ↦ absurd hstream hne⟩
    · exact ((hwithin s.scene).world.symm.trans h.world).trans (hwithin t.scene).world
    · exact (hwithin t.scene).host.trans (h.host.trans (hwithin s.scene).host.symm)
  · obtain ⟨houtcome, hafter⟩ := hother hstream s.scene t.scene h.abreast
    exact ⟨⟨hafter.world, hafter.host⟩, fun _ ↦ noticesReturn_congr houtcome hafter.lineReset⟩

theorem attempt (h : s.AlikeBeside stream t)
    (hself : ∀ {R : Scene σ → Scene σ → Prop}, Scene.Admits other R →
      (∀ s, R s { s with lineReset := true }) → Act.Within R activity)
    (hother : other ≠ stream →
      Act.Lockstep (Scene.Abreast stream core) (Scene.Abreast stream core) activity) :
    (s.attempt activity).2.AlikeBeside stream (t.attempt activity).2 := by
  obtain ⟨hafter, -⟩ := h.run hself hother
  exact ⟨h.engine, hafter.world, hafter.host⟩

theorem world_openTerminal (h : s.AlikeBeside stream t) :
    s.openTerminal.world.AlikeBeside stream t.openTerminal.world := by
  have hslot := h.engine.slot
  have hwindow := h.engine.window
  have hterminal := h.engine.terminal
  unfold Session.openTerminal
  rw [hslot]
  cases s.engine.slot with
  | unopened =>
    dsimp only
    cases hs : s.engine.console.terminal with
    | error first =>
      cases ht : t.engine.console.terminal with
      | error second =>
        have htried := h.world.record (.openTerminal false)
        exact ((World.AlikeBeside.debug _ _ _).symm.trans htried).trans (.debug _ _ _)
      | ok second =>
        rw [hs, ht] at hwindow
        cases hwindow
    | ok first =>
      cases ht : t.engine.console.terminal with
      | error second =>
        rw [hs, ht] at hwindow
        cases hwindow
      | ok second =>
        rw [hs, ht] at hwindow hterminal
        have hopened := h.world.setTerminal (Except.ok.inj hwindow) fun hstream ↦
          Except.ok.inj (hterminal hstream)
        exact hopened.record (.openTerminal true)
  | opened => exact h.world
  | unavailable => exact h.world

theorem openTerminal (h : s.AlikeBeside stream t) :
    s.openTerminal.AlikeBeside stream t.openTerminal where
  engine := by
    rw [engine_openTerminal, engine_openTerminal]
    refine { h.engine with slot := ?_ }
    dsimp only
    rw [h.engine.slot, TerminalSlot.settle_congr h.engine.window]
  world := h.world_openTerminal
  host := by rw [host_openTerminal, host_openTerminal, h.host]

theorem closeTerminal (h : s.AlikeBeside stream t) :
    s.closeTerminal.AlikeBeside stream t.closeTerminal where
  engine := by
    rw [engine_closeTerminal, engine_closeTerminal]
    exact { h.engine with slot := rfl }
  world := by
    unfold Session.closeTerminal
    rw [h.engine.slot]
    cases s.engine.slot with
    | opened => exact (h.world.record (.flush .terminal)).record .closeTerminal
    | _ => exact h.world
  host := by rw [host_closeTerminal, host_closeTerminal, h.host]

theorem withTerminal (h : s.AlikeBeside stream t)
    (hself : ∀ {R : Scene σ → Scene σ → Prop}, Scene.Admits .terminal R →
      (∀ s, R s { s with lineReset := true }) → Act.Within R activity)
    (hother : .terminal ≠ stream →
      Act.Lockstep (Scene.Abreast stream core) (Scene.Abreast stream core) activity) :
    (s.withTerminal activity).2.AlikeBeside stream (t.withTerminal activity).2 := by
  have hready := h.openTerminal
  obtain ⟨hafter, hnoticed⟩ := hready.run hself hother
  unfold Session.withTerminal
  dsimp only
  rw [hready.engine.slot]
  split
  · refine ⟨?_, hafter.world, hafter.host⟩
    rw [engine_attemptOnTerminal, engine_attemptOnTerminal]
    refine { hready.engine with isDirty := fun hstream ↦ ?_ }
    dsimp only
    rw [hready.engine.isDirty hstream, hnoticed hstream.symm]
  · exact hready

/-! ### Actions -/

theorem perform (h : s.AlikeBeside stream t) (hstream : stream.Private) (isWrite : Bool)
    (action : Action) :
    (s.perform isWrite action).2.AlikeBeside stream (t.perform isWrite action).2 := by
  cases action with
  | dot =>
    unfold Session.perform
    dsimp only
    rw [h.engine.listing]
    exact h.attempt (fun hR _ ↦ .put hR _) fun hother ↦ .put (Scene.keeps_abreast hother) _
  | bell =>
    exact h.withTerminal (fun hR _ ↦ .put hR _) fun hother ↦ .put (Scene.keeps_abreast hother) _
  | echo =>
    unfold Session.perform
    dsimp only
    rw [h.engine.diagnostics, h.engine.ticks]
    exact h.attempt (fun hR hreturn ↦ .echo hreturn hR _ _ _) fun hother ↦
      .echo (Scene.agrees_abreast hother) _ _ _
  | echoText template =>
    unfold Session.perform
    dsimp only
    rw [h.engine.diagnostics, h.engine.ticks]
    exact h.attempt (fun hR hreturn ↦ .echo hreturn hR _ _ _) fun hother ↦
      .echo (Scene.agrees_abreast hother) _ _ _
  | ttyText template =>
    unfold Session.perform
    dsimp only
    rw [h.engine.ticks]
    exact h.withTerminal (fun hR hreturn ↦ .ttyText hreturn hR _ _ _) fun hother ↦
      .ttyText (Scene.agrees_abreast hother) _ _ _
  | sleep seconds =>
    rw [perform_sleep, perform_sleep]
    exact h.onWorld (·.pause (.ofSeconds seconds)) (h.world.pause _)
  | exec command =>
    unfold Session.perform
    dsimp only
    rw [archive_eq h.host, h.engine.ticks]
    obtain ⟨-, hafter⟩ :=
      Scene.lockstep_exec hstream command _ s.engine.ticks s.scene t.scene h.abreast
    exact ⟨h.engine, hafter.world, hafter.host⟩
  | totals =>
    obtain ⟨-, hafter⟩ := Act.Lockstep.freshTotals (Scene.agrees_abreast hstream.ne_stderr.symm)
      s.scene t.scene h.abreast
    exact ⟨h.engine, hafter.world, core_eq_of_timed_eq hafter.host⟩
  | wait signal =>
    unfold Session.perform
    dsimp only
    rw [h.engine.signals]
    exact h.onWorld (·.record (.wait s.engine.signals.toList)) (h.world.record _)

theorem carryOut (h : s.AlikeBeside stream t) (hstream : stream.Private) (isWrite : Bool)
    (action : Action) :
    (s.carryOut isWrite action).AlikeBeside stream (t.carryOut isWrite action) := by
  have hperform := h.perform hstream isWrite action
  obtain hs | ⟨first, hs⟩ := s.carryOut_cases isWrite action <;>
    obtain ht | ⟨second, ht⟩ := t.carryOut_cases isWrite action <;> rw [hs, ht]
  · exact hperform
  · exact hperform.debug_right second
  · exact hperform.debug_left first
  · exact (hperform.debug_left first).debug_right second

theorem carryOutAll (h : s.AlikeBeside stream t) (hstream : stream.Private) (isWrite : Bool)
    (program : List Action) :
    (s.carryOutAll isWrite program).AlikeBeside stream (t.carryOutAll isWrite program) := by
  induction program generalizing s t with
  | nil => exact h
  | cons action rest ih => exact ih (h.carryOut hstream isWrite action)

/-! ### The end of a run -/

/-- Clearing the line on the terminal is not seen beside the terminal. -/
theorem clearLines_self (times : Nat) (s : Session σ) :
    s.scene.AlikeBeside .terminal (s.clearLines times).2.scene := by
  have hadmits := Scene.admits_alikeBeside (σ := σ) .terminal
  have hclear (r : Session σ) : r.scene.AlikeBeside .terminal r.clearLine.2.scene := by
    have hwithin := Act.Within.clearLine hadmits r.scene
    have hattempt : r.scene.AlikeBeside .terminal (r.attempt Act.clearLine).2.scene :=
      ⟨hwithin.world, hwithin.host⟩
    unfold Session.clearLine
    split <;> rename_i h <;> rw [h] at hattempt
    · exact hattempt
    · exact ⟨hattempt.world.trans (.debug _ _ _), hattempt.host⟩
    · exact hattempt
  induction times generalizing s with
  | zero => exact hadmits.refl s.scene
  | succ times ih =>
    have hfirst := hclear s
    rw [clearLines]
    split
    · rename_i cleared h
      rw [h] at hfirst
      exact hadmits.trans hfirst (ih cleared)
    · exact hfirst

theorem clearLine_other (h : s.AlikeBeside stream t) (hterminal : .terminal ≠ stream) :
    t.clearLine.1 = s.clearLine.1 ∧ s.clearLine.2.AlikeBeside stream t.clearLine.2 := by
  obtain ⟨houtcome, hscene⟩ :=
    Act.Lockstep.clearLine (Scene.keeps_abreast hterminal) s.scene t.scene h.abreast
  have hresult : (t.attempt Act.clearLine).1 = (s.attempt Act.clearLine).1 := houtcome
  have hafter : (s.attempt Act.clearLine).2.AlikeBeside stream (t.attempt Act.clearLine).2 :=
    ⟨h.engine, hscene.world, hscene.host⟩
  unfold Session.clearLine
  rcases hs : s.attempt Act.clearLine with ⟨(first | _) | _, nextS⟩ <;>
    rcases ht : t.attempt Act.clearLine with ⟨(second | _) | _, nextT⟩ <;>
    rw [hs, ht] at hresult hafter <;> cases hresult
  · exact ⟨rfl, (hafter.debug_left _).debug_right _⟩
  · exact ⟨rfl, hafter⟩
  · exact ⟨rfl, hafter⟩

theorem clearLines_other (h : s.AlikeBeside stream t) (hterminal : .terminal ≠ stream)
    (times : Nat) : (s.clearLines times).2.AlikeBeside stream (t.clearLines times).2 := by
  induction times generalizing s t with
  | zero => exact h
  | succ times ih =>
    obtain ⟨hresult, hafter⟩ := h.clearLine_other hterminal
    rw [clearLines, clearLines]
    rcases hs : s.clearLine with ⟨first | first, clearedS⟩ <;>
      rcases ht : t.clearLine with ⟨second | second, clearedT⟩ <;>
      rw [hs, ht] at hresult hafter <;> cases hresult
    · exact hafter
    · exact ih hafter

/-- All pending lines are cleared in both sessions, however many they are. -/
theorem clearLines (h : s.AlikeBeside stream t) :
    (s.clearLines (pendingClears s.engine)).2.AlikeBeside stream
      (t.clearLines (pendingClears t.engine)).2 := by
  by_cases hterminal : stream = .terminal
  · subst hterminal
    have hs := clearLines_self (pendingClears s.engine) s
    have ht := clearLines_self (pendingClears t.engine) t
    refine ⟨?_, (hs.world.symm.trans h.world).trans ht.world, ?_⟩
    · rw [engine_clearLines, engine_clearLines]
      exact h.engine
    · exact ht.host.trans (h.host.trans hs.host.symm)
  · have hpending : pendingClears t.engine = pendingClears s.engine := by
      unfold pendingClears
      rw [h.engine.isDirty hterminal, h.engine.slot, h.engine.program]
    rw [hpending]
    exact h.clearLines_other (fun heq ↦ hterminal heq.symm) _

theorem finish (h : s.AlikeBeside stream t) (hs : s.finish.1 ≠ .error .crash)
    (ht : t.finish.1 ≠ .error .crash) :
    t.finish.1 = s.finish.1 ∧ s.finish.2.AlikeBeside stream t.finish.2 := by
  rw [finish_of_ne_crash hs, finish_of_ne_crash ht, h.engine.interval]
  split
  · exact ⟨rfl, h⟩
  · exact ⟨rfl, h.clearLines.closeTerminal⟩

/-! ### Ticks -/

theorem count (h : s.AlikeBeside stream t) : s.count.AlikeBeside stream t.count :=
  ⟨{ h.engine with ticks := congrArg (· + 1) h.engine.ticks }, h.world, h.host⟩

theorem tick (h : s.AlikeBeside stream t) (hstream : stream.Private) (isWrite : Bool)
    (hs : (s.tick isWrite).1 ≠ .error .crash) (ht : (t.tick isWrite).1 ≠ .error .crash) :
    (t.tick isWrite).1 = (s.tick isWrite).1 ∧
      (s.tick isWrite).2.AlikeBeside stream (t.tick isWrite).2 := by
  have hcount := h.count
  have henabled : t.engine.isEnabled = s.engine.isEnabled := by
    simp only [Engine.isEnabled, h.engine.phase, h.engine.interval]
  have hdue : t.count.engine.isDue = s.count.engine.isDue := by
    simp only [Engine.isDue, hcount.engine.ticks, hcount.engine.interval]
  rw [tick_of_ne_crash hs, tick_of_ne_crash ht, h.engine.isSealed, h.engine.phase, henabled, hdue,
    h.engine.program]
  split
  · exact ⟨rfl, h⟩
  split
  · exact ⟨rfl, h⟩
  split
  · exact ⟨rfl, hcount.carryOutAll hstream isWrite s.engine.program⟩
  · exact ⟨rfl, hcount⟩

end Session.AlikeBeside

/-! ## Runs -/

/-- What drives an engine at work. -/
inductive Beat where
  | tick (isWrite : Bool)
  | finish
  /-- Time passes between two calls. -/
  | advance (time : Duration)
  deriving DecidableEq, Repr

namespace Session

variable [Host σ]

/-- What comes of a beat: its result and the session after it. -/
def beat (s : Session σ) : Beat → Except Stop Unit × Session σ
  | .tick isWrite => s.tick isWrite
  | .finish => s.finish
  | .advance time => (.ok (), s.advance time)

def beats (s : Session σ) (row : List Beat) : Session σ := row.foldl (fun s beat ↦ (s.beat beat).2) s

def beatResults : List Beat → Session σ → List (Except Stop Unit)
  | [], _ => []
  | beat :: rest, s => (s.beat beat).1 :: beatResults rest (s.beat beat).2

/-- The first results of a row are those of its first beats. -/
theorem beatResults_take (n : Nat) (row : List Beat) (s : Session σ) :
    s.beatResults (row.take n) = (s.beatResults row).take n := by
  induction row generalizing n s with
  | nil => simp [beatResults]
  | cons beat rest ih =>
    cases n with
    | zero => rfl
    | succ n => rw [List.take_succ_cons, beatResults, beatResults, ih, List.take_succ_cons]

variable [Host.Steady σ] {stream : Stream} {s t : Session σ}

/-- As long as neither session crashes, a beat goes the same way in both. -/
theorem AlikeBeside.beat (h : s.AlikeBeside stream t) (hstream : stream.Private) {beat : Beat}
    (hs : (s.beat beat).1 ≠ .error .crash) (ht : (t.beat beat).1 ≠ .error .crash) :
    (t.beat beat).1 = (s.beat beat).1 ∧
      (s.beat beat).2.AlikeBeside stream (t.beat beat).2 := by
  cases beat with
  | tick isWrite => exact h.tick hstream isWrite hs ht
  | finish => exact h.finish hs ht
  | advance time => exact ⟨rfl, h.onWorld (·.advance time) (h.world.advance time)⟩

/-- As long as neither session crashes, a row of beats goes the same way in both. -/
theorem AlikeBeside.beats (h : s.AlikeBeside stream t) (hstream : stream.Private) {row : List Beat}
    (hs : .error .crash ∉ s.beatResults row) (ht : .error .crash ∉ t.beatResults row) :
    t.beatResults row = s.beatResults row ∧ (s.beats row).AlikeBeside stream (t.beats row) := by
  induction row generalizing s t with
  | nil => exact ⟨rfl, h⟩
  | cons beat rest ih =>
    rw [beatResults, List.mem_cons, not_or] at hs ht
    obtain ⟨hresult, hafter⟩ := h.beat hstream (fun heq ↦ hs.1 heq.symm) fun heq ↦ ht.1 heq.symm
    obtain ⟨hlater, hlast⟩ := ih hafter hs.2 ht.2
    exact ⟨by rw [beatResults, beatResults, hresult, hlater], hlast⟩

end Session

/-! ## Isolation -/

def Event.isOn (stream : Stream) : Event → Bool
  | write s _ => s == stream
  | flush s => s == stream
  | _ => false

namespace World

variable {stream other : Stream} {v w : World}

/-- Whatever is seen beside a stream is the same in worlds that are alike. -/
theorem AlikeBeside.selected_eq (h : v.AlikeBeside stream w) {kind : Event → Bool}
    (hkind : ∀ event, kind event = true → isSeenBeside stream event = true) :
    w.selected kind = v.selected kind := by
  have hfilter (u : World) : (u.selected (isSeenBeside stream)).filter kind = u.selected kind := by
    rw [selected, List.filter_filter, selected]
    congr 1
    funext event
    cases hevent : kind event with
    | true => simp [hkind event hevent]
    | false => simp
  rw [← hfilter w, ← hfilter v, h.seen]

/-- What happens on another stream is seen, the log apart. -/
theorem isSeenBeside_of_isOn (hother : other ≠ stream) (hlog : other ≠ .stderr) (event : Event)
    (h : event.isOn other = true) : isSeenBeside stream event = true := by
  cases event with
  | write s content =>
    obtain rfl : s = other := by simpa [Event.isOn] using h
    simp [isSeenBeside, Event.isLeftOn, hother, hlog]
  | flush s =>
    obtain rfl : s = other := by simpa [Event.isOn] using h
    simp [isSeenBeside, Event.isLeftOn, hother]
  | _ => cases h

/-- The deeds of a program are seen beside every stream. -/
theorem isSeenBeside_of_isDeed (event : Event) (h : event.isDeed = true) :
    isSeenBeside stream event = true := by
  cases event <;> first | rfl | cases h

end World

namespace Session

/-- Two sessions that differ only in the limits of the sink of one stream: in the room that it has and
in whether it can be flushed. The terminal has a sink if it is open, and another one for each time
that it will be opened. -/
structure DiffersOnlyAt (stream : Stream) (s t : Session σ) : Prop where
  host : t.host = s.host
  world : ∃ sink : Sink, sink.width = (s.world.sinks.get stream).width ∧
    t.world = { s.world with sinks := s.world.sinks.set stream sink }
  engine : ∃ terminal : Except String Sink,
    terminal.map Sink.width = s.engine.console.terminal.map Sink.width ∧
      (stream ≠ .terminal → terminal = s.engine.console.terminal) ∧
      t.engine = { s.engine with console := { s.engine.console with terminal } }

/-- A session with another sink for a stream that is not opened and closed. -/
theorem differsOnlyAt_onWorld {stream : Stream} {sink : Sink} (s : Session σ)
    (hwidth : sink.width = (s.world.sinks.get stream).width) :
    s.DiffersOnlyAt stream (s.onWorld fun w ↦ { w with sinks := w.sinks.set stream sink }) :=
  ⟨rfl, ⟨sink, hwidth, rfl⟩, s.engine.console.terminal, rfl, fun _ ↦ rfl, rfl⟩

variable [Host σ] [Host.Steady σ] {stream : Stream} {s t : Session σ}

/-- Sessions that differ at one sink only are alike beside it. -/
theorem DiffersOnlyAt.alikeBeside (h : s.DiffersOnlyAt stream t) : s.AlikeBeside stream t := by
  obtain ⟨hhost, ⟨sink, hwidth, hworld⟩, terminal, hwindow, hterminal, hengine⟩ := h
  refine ⟨?_, ?_, congrArg core hhost⟩
  · rw [hengine]
    exact ⟨⟨rfl, rfl, rfl, rfl, rfl, rfl⟩, rfl, rfl, hwindow, hterminal, rfl, fun _ ↦ rfl⟩
  · rw [hworld]
    refine ⟨rfl, fun other hother ↦ Sinks.get_set_of_ne hother _ _, ?_, rfl⟩
    cases stream <;> first | exact hwidth | rfl

/-- Streams are isolated from each other's failures. In two runs that differ only in the limits of the
sink of one stream, neither of them meeting a fault, all results are the same; and at every moment the
other streams have been written to and flushed in the same way, the same deeds have been done, and the
engine has the same task, the same hold on the terminal and, unless the stream is the terminal, the
same note of carriage returns. The standard error is left out, as it carries the log as well. -/
theorem isolated_of_differsOnlyAt (hstream : stream.Private) (h : s.DiffersOnlyAt stream t)
    {row : List Beat} (hs : .error .crash ∉ s.beatResults row)
    (ht : .error .crash ∉ t.beatResults row) :
    t.beatResults row = s.beatResults row ∧
      ∀ n,
        let u := s.beats (row.take n)
        let v := t.beats (row.take n)
        (∀ other, other ≠ stream → other ≠ .stderr →
          v.world.selected (Event.isOn other) = u.world.selected (Event.isOn other)) ∧
        v.world.deeds = u.world.deeds ∧
        u.engine.SameTask v.engine ∧
        v.engine.slot = u.engine.slot ∧
        (stream ≠ .terminal → v.engine.isDirty = u.engine.isDirty) := by
  refine ⟨(h.alikeBeside.beats hstream hs ht).1, fun n ↦ ?_⟩
  have hcalm {r : Session σ} (hr : .error .crash ∉ r.beatResults row) :
      .error .crash ∉ r.beatResults (row.take n) := by
    rw [beatResults_take]
    exact fun hmem ↦ hr (List.mem_of_mem_take hmem)
  obtain ⟨-, hlast⟩ := h.alikeBeside.beats hstream (hcalm hs) (hcalm ht)
  exact ⟨fun other hother hlog ↦ hlast.world.selected_eq (World.isSeenBeside_of_isOn hother hlog),
    hlast.world.selected_eq World.isSeenBeside_of_isDeed, hlast.engine.toSameTask, hlast.engine.slot,
    hlast.engine.isDirty⟩

/-- An echo that is cut off after three bytes, and cannot be flushed, takes nothing from the
listing. -/
theorem isolated_of_full_diagnostics :
    let s := (fresh 1 ⟨.listing, .diagnostics, .ok {}⟩ {} ({} : ScriptedHost)).steps
      [.compile "echo=%T", .compile "dot", .compile "exec=true", .finishCompile]
    let t := s.onWorld fun w ↦
      { w with sinks := w.sinks.set .diagnostics { room := some 3, flushFails := true } }
    (t.beats [.tick true, .finish]).world.selected (Event.isOn .listing) =
      (s.beats [.tick true, .finish]).world.selected (Event.isOn .listing) := by
  intro s t
  have hdiffers : s.DiffersOnlyAt .diagnostics t := s.differsOnlyAt_onWorld (by decide +kernel)
  have hs : .error .crash ∉ s.beatResults [.tick true, .finish] := by decide +kernel
  have ht : .error .crash ∉ t.beatResults [.tick true, .finish] := by decide +kernel
  have hlaw := isolated_of_differsOnlyAt ⟨by decide, by decide⟩ hdiffers hs ht
  exact (hlaw.2 2).1 .listing (by decide) (by decide)

end Session

end ProgressActions
