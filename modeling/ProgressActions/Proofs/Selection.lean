import ProgressActions.Proofs.Output

/-!
# Events of one kind

A trace is often read for the events of one kind: the deeds of a program, its signals, what happens to
the terminal. An activity on a stream leaves behind its output there, inquiries to the host and lines
of the log. So a kind that holds none of these is left alone by all that is done on the stream, and a
kind that holds no output at all is left alone by the whole of it.
-/

namespace ProgressActions

namespace Event

/-- Whether an event is left behind by activities on a stream. -/
def isLeftOn (stream : Stream) : Event → Bool
  | write s _ => s == stream || s == .stderr
  | flush s => s == stream
  | event => event.isInquiry

/-- A kind of events ignores a stream: it holds nothing that is left behind by activities there. -/
def Ignores (kind : Event → Bool) (stream : Stream) : Prop :=
  ∀ event, event.isLeftOn stream = true → kind event = false

def Silent (kind : Event → Bool) : Prop := ∀ event, event.isOutput = true → kind event = false

/-- Lines of the log are left behind everywhere. -/
theorem Ignores.log {kind : Event → Bool} {stream : Stream} (h : Ignores kind stream)
    (content : List UInt8) : kind (.write .stderr content) = false :=
  h _ (by simp [isLeftOn])

theorem isLeftOn_of_isInquiry {event : Event} (h : event.isInquiry = true) (stream : Stream) :
    event.isLeftOn stream = true := by
  cases event <;> first | exact h | cases h

theorem isOutput_of_isLeftOn {stream : Stream} {event : Event}
    (h : event.isLeftOn stream = true) : event.isOutput = true := by
  cases event <;> first | rfl | exact h

/-- A kind that holds no output ignores every stream. -/
theorem Silent.ignores {kind : Event → Bool} (h : Silent kind) (stream : Stream) :
    Ignores kind stream :=
  fun event hleft ↦ h event (isOutput_of_isLeftOn hleft)

end Event

open Event

namespace World

def selected (kind : Event → Bool) (w : World) : List Event := w.events.filter kind

variable {kind : Event → Bool}

/-- An event is selected if it is of the kind. -/
theorem selected_record (w : World) (event : Event) :
    (w.record event).selected kind = w.selected kind ++ [event].filter kind := by
  simp only [selected, events_record, List.filter_append]

theorem selected_record_of_not {event : Event} (h : kind event = false) (w : World) :
    (w.record event).selected kind = w.selected kind := by
  rw [selected_record]
  simp [h]

theorem selected_write {stream : Stream} {content : List UInt8}
    (h : ∀ stored, kind (.write stream stored) = false) (w : World) :
    (w.write stream content).2.selected kind = w.selected kind := by
  unfold write
  dsimp only
  split
  · rfl
  · exact selected_record_of_not (h _) _

theorem selected_pause_of_not {time : Duration} (h : kind (.sleep time) = false) (w : World) :
    (w.pause time).selected kind = w.selected kind := by
  unfold pause
  split
  · rfl
  · exact selected_record_of_not h w

section Log

variable (h : ∀ content, kind (.write .stderr content) = false)

include h

theorem selected_log (w : World) (moduleName message : String) :
    (w.log moduleName message).selected kind = w.selected kind :=
  selected_write h w

theorem selected_debug (w : World) (moduleName message : String) :
    (w.debug moduleName message).selected kind = w.selected kind := by
  unfold debug
  split
  · exact selected_log h w moduleName message
  · rfl

theorem selected_noted (line : Option String) (w : World) :
    (Act.noted line w).selected kind = w.selected kind := by
  cases line with
  | none => rfl
  | some text => exact selected_log h w "error" text

/-- What a command writes is left behind on the standard streams. -/
theorem selected_settled (hout : ∀ content, kind (.write .stdout content) = false)
    (report : ScriptReport) (w : World) :
    (Act.settled report w).selected kind = w.selected kind := by
  have hshown : ((w.write .stdout report.stdout).2.write .stderr report.stderr).2.selected kind =
      w.selected kind := by
    rw [selected_write h, selected_write hout]
  unfold Act.settled
  dsimp only
  split
  · rw [selected_log h, hshown]
  · exact hshown

end Log

end World

variable {σ : Type} [Host σ] {kind : Event → Bool}

/-- A kind that ignores a stream is left alone by all that is done there. -/
theorem Scene.admits_selected {stream : Stream} (h : Ignores kind stream) :
    Scene.Admits stream fun s t : Scene σ ↦ t.world.selected kind = s.world.selected kind where
  refl _ := rfl
  trans hst htu := htu.trans hst
  write s _ := World.selected_write (fun _ ↦ h _ (by simp [isLeftOn])) s.world
  flush s := World.selected_record_of_not (h _ (by simp [isLeftOn])) s.world
  record s _ hinquiry := World.selected_record_of_not (h _ (isLeftOn_of_isInquiry hinquiry _)) s.world
  log s message := World.selected_log h.log s.world "error" message
  measure _ := rfl
  noteError _ _ := rfl

/-- A kind that holds no output is left alone by all output of a session. -/
theorem Session.admits_selected (h : Silent kind) :
    Session.Admits fun s t : Session σ ↦ t.world.selected kind = s.world.selected kind where
  trans hfirst hsecond := hsecond.trans hfirst
  unseen htrace _ := by simp only [World.selected, World.events, htrace]
  output s event houtput := World.selected_record_of_not (h event houtput) s.world
  measure _ := rfl
  noteError _ _ := rfl

namespace Session

omit [Host σ] in
/-- To compile a spec adds lines of the log only. -/
theorem selected_compile (h : ∀ content, kind (.write .stderr content) = false) (spec : String)
    (s : Session σ) : (s.compile spec).2.world.selected kind = s.world.selected kind := by
  unfold compile
  cases s.engine.compile spec with
  | error cause => rfl
  | ok engine => exact World.selected_debug h s.world _ _

omit [Host σ] in
/-- To set an engine to work is to block its signals. -/
theorem selected_start (h : ∀ content, kind (.write .stderr content) = false) (s : Session σ) :
    s.start.world.selected kind =
      s.world.selected kind ++ [.block s.engine.signals.toList].filter kind := by
  have hblock : (s.world.record (.block s.engine.signals.toList)).selected kind =
      s.world.selected kind ++ [.block s.engine.signals.toList].filter kind :=
    World.selected_record _ _
  exact (World.selected_debug h _ _ _).trans hblock

end Session

end ProgressActions
