import ProgressActions.Proofs.Call

/-!
# What output leaves alone

Most of what a session does is output: it renders texts, opens and closes the terminal, and keeps its
log. A relation between sessions that looks at traces and hosts only, may be chained, and admits what
output leaves behind, holds across all of it, and so across the end of a run.
-/

namespace ProgressActions

def Event.isOutput : Event → Bool
  | write _ _ => true
  | flush _ => true
  | openTerminal _ => true
  | closeTerminal => true
  | event => event.isInquiry

/-- A question to the host is a matter of output. -/
theorem Event.isOutput_of_isInquiry {event : Event} (h : event.isInquiry = true) :
    event.isOutput = true := by
  cases event <;> first | rfl | exact h

def Action.isOutput : Action → Bool
  | dot => true
  | bell => true
  | echo => true
  | echoText _ => true
  | ttyText _ => true
  | _ => false

variable {σ : Type} [Host σ]

/-- A relation between sessions that looks at traces and hosts only, can be chained, and admits what
output leaves behind. -/
structure Session.Admits (R : Session σ → Session σ → Prop) : Prop where
  trans : ∀ {s t u}, R s t → R t u → R s u
  unseen : ∀ {s t}, t.world.trace = s.world.trace → t.host = s.host → R s t
  output : ∀ s event, event.isOutput = true → R s (s.onWorld (·.record event))
  measure : ∀ s, R s { s with host := (Host.measure s.world.passed s.host).2 }
  noteError : ∀ s message, R s { s with host := (Host.noteError message s.host).2 }

namespace Session.Admits

variable {R : Session σ → Session σ → Prop} (hR : Session.Admits R)

include hR

theorem refl (s : Session σ) : R s s := hR.unseen rfl rfl

/-! ## The surroundings -/

theorem write (stream : Stream) (content : List UInt8) (s : Session σ) :
    R s (s.onWorld fun w ↦ (w.write stream content).2) := by
  let next := s.onWorld fun w ↦
    { w with sinks := w.sinks.set stream ((w.sinks.get stream).afterWrite content) }
  have hsinks : R s next := hR.unseen rfl rfl
  by_cases hnone : (s.world.sinks.get stream).stored content = []
  · have hwrite : (s.onWorld fun w ↦ (w.write stream content).2) = next := by
      unfold onWorld World.write
      dsimp only
      rw [if_pos hnone]
      rfl
    rw [hwrite]
    exact hsinks
  · have hwrite : (s.onWorld fun w ↦ (w.write stream content).2) =
        next.onWorld (·.record (.write stream ((s.world.sinks.get stream).stored content))) := by
      unfold onWorld World.write
      dsimp only
      rw [if_neg hnone]
      rfl
    rw [hwrite]
    exact hR.trans hsinks (hR.output next _ rfl)

theorem flush (stream : Stream) (s : Session σ) : R s (s.onWorld fun w ↦ (w.flush stream).2) :=
  hR.output s (.flush stream) rfl

theorem log (moduleName message : String) (s : Session σ) :
    R s (s.onWorld (·.log moduleName message)) :=
  hR.write .stderr _ s

theorem debug (moduleName message : String) (s : Session σ) :
    R s (s.onWorld (·.debug moduleName message)) := by
  cases hverbose : s.world.verbose with
  | true =>
    have hlog : s.onWorld (·.debug moduleName message) = s.onWorld (·.log moduleName message) := by
      simp [onWorld, World.debug, hverbose]
    rw [hlog]
    exact hR.log moduleName message s
  | false =>
    have hkept : s.onWorld (·.debug moduleName message) = s := by
      simp [onWorld, World.debug, hverbose]
    rw [hkept]
    exact hR.refl s

/-! ## Activities -/

/-- A session admits what its relation admits of the scenes of an activity. -/
theorem scene (stream : Stream) (s : Session σ) :
    Scene.Admits stream fun first last : Scene σ ↦ R (s.after first) (s.after last) where
  refl first := hR.refl (s.after first)
  trans hfirst hsecond := hR.trans hfirst hsecond
  write first content := hR.write stream content (s.after first)
  flush first := hR.flush stream (s.after first)
  record first event h := hR.output (s.after first) event (Event.isOutput_of_isInquiry h)
  log first message := hR.log "error" message (s.after first)
  measure first := hR.measure (s.after first)
  noteError first message := hR.noteError (s.after first) message

theorem openTerminal (s : Session σ) : R s s.openTerminal := by
  unfold Session.openTerminal
  split
  · split
    · rename_i sink _
      let ready := s.onWorld fun w ↦ { w with sinks := w.sinks.set .terminal sink }
      have hready : R s ready := hR.unseen rfl rfl
      exact hR.trans (hR.trans hready (hR.output ready (.openTerminal true) rfl))
        (hR.unseen rfl rfl)
    · rename_i reason _
      exact hR.trans (hR.trans (hR.output s (.openTerminal false) rfl) (hR.debug "tty" _ _))
        (hR.unseen rfl rfl)
  · exact hR.refl s

theorem closeTerminal (s : Session σ) : R s s.closeTerminal := by
  unfold Session.closeTerminal
  cases s.engine.slot with
  | opened =>
    let flushed := s.onWorld fun w ↦ (w.flush .terminal).2
    have hclosed : R s (flushed.onWorld (·.record .closeTerminal)) :=
      hR.trans (hR.flush .terminal s) (hR.output flushed .closeTerminal rfl)
    exact hR.trans hclosed (hR.unseen rfl rfl)
  | _ => exact hR.unseen rfl rfl

theorem withTerminal {activity : Act σ Unit} {s : Session σ}
    (h : Act.Within (fun first last ↦ R (s.openTerminal.after first) (s.openTerminal.after last))
      activity) : R s (s.withTerminal activity).2 := by
  have hopen := hR.openTerminal s
  unfold Session.withTerminal
  dsimp only
  split
  · have hactivity : R s.openTerminal
        (s.openTerminal.after (activity.run.run s.openTerminal.scene).2) := h s.openTerminal.scene
    exact hR.trans (hR.trans hopen hactivity) (hR.unseen rfl rfl)
  · exact hopen

/-- An action that does nothing but output. -/
theorem perform {action : Action} (haction : action.isOutput = true) (isWrite : Bool)
    (s : Session σ) : R s (s.perform isWrite action).2 := by
  have hreturn (t : Session σ) (first : Scene σ) :
      R (t.after first) (t.after { first with lineReset := true }) :=
    hR.refl (t.after first)
  have hlisting := hR.scene s.engine.console.listing s
  have hdiagnostics := hR.scene s.engine.console.diagnostics s
  have hterminal := hR.scene .terminal s.openTerminal
  cases action with
  | dot => exact Act.Within.put hlisting ['.'] s.scene
  | bell => exact hR.withTerminal (.put hterminal ['\x07'])
  | echo =>
    exact Act.Within.echo (hreturn s) hdiagnostics isWrite s.engine.ticks none s.scene
  | echoText template =>
    exact Act.Within.echo (hreturn s) hdiagnostics isWrite s.engine.ticks (some template) s.scene
  | ttyText template =>
    exact hR.withTerminal (.ttyText (hreturn s.openTerminal) hterminal isWrite _ template)
  | _ => cases haction

/-! ## The end of a run -/

theorem clearLine (s : Session σ) : R s s.clearLine.2 := by
  have hattempt : R s (s.attempt Act.clearLine).2 :=
    Act.Within.clearLine (hR.scene .terminal s) s.scene
  unfold Session.clearLine
  split <;> rename_i h <;> rw [h] at hattempt
  · exact hattempt
  · exact hR.trans hattempt (hR.debug _ _ _)
  · exact hattempt

theorem clearLines (times : Nat) (s : Session σ) : R s (s.clearLines times).2 := by
  induction times generalizing s with
  | zero => exact hR.refl s
  | succ times ih =>
    have hfirst := hR.clearLine s
    rw [Session.clearLines]
    split
    · rename_i cleared h
      rw [h] at hfirst
      exact hR.trans hfirst (ih cleared)
    · exact hfirst

theorem finish (s : Session σ) : R s s.finish.2 := by
  unfold Session.finish
  split
  · exact hR.refl s
  · have hcleared := hR.clearLines (pendingClears s.engine) s
    split
    · rename_i cleared h
      rw [h] at hcleared
      exact hR.trans hcleared (hR.closeTerminal cleared)
    · exact hcleared

end Session.Admits

end ProgressActions
