import ProgressActions.Proofs.Textual

/-!
# What activities do to a scene

An activity is run from a scene to an outcome and a scene. The elementary activities have an exact
equation each. A rendering is made of few of them: it writes to one stream and flushes it, asks its
host for the time and for totals, and reports errors. So a relation between scenes that admits these
few changes, and may be chained, holds between the scenes before and after every rendering, however
the rendering ends.
-/

namespace ProgressActions

variable {σ α β : Type}

namespace Act

/-! ## Running -/

theorem run_bind (first : Act σ α) (second : α → Act σ β) (s : Scene σ) :
    (first >>= second).run.run s =
      match first.run.run s with
      | (.ok a, next) => (second a).run.run next
      | (.error cause, next) => (.error cause, next) := by
  rw [ExceptT.run_bind, StateT.run_bind]
  rcases first.run.run s with ⟨outcome | outcome, next⟩ <;> rfl

theorem run_pure (a : α) (s : Scene σ) : (pure a : Act σ α).run.run s = (.ok a, s) := rfl

theorem run_throw (cause : Interruption) (s : Scene σ) :
    (throw cause : Act σ α).run.run s = (.error cause, s) := rfl

theorem run_get (s : Scene σ) : (get : Act σ (Scene σ)).run.run s = (.ok s, s) := rfl

theorem run_modify (f : Scene σ → Scene σ) (s : Scene σ) :
    (modify f : Act σ Unit).run.run s = (.ok (), f s) := rfl

theorem run_set (next s : Scene σ) : (set next : Act σ Unit).run.run s = (.ok (), next) := rfl

theorem run_onWorld (f : World → World) (s : Scene σ) :
    (onWorld f).run.run s = (.ok (), { s with world := f s.world }) := rfl

theorem run_record (event : Event) (s : Scene σ) :
    (record event).run.run s = (.ok (), { s with world := s.world.record event }) := rfl

theorem run_write (stream : Stream) (text : List Char) (s : Scene σ) :
    (write stream text).run.run s =
      (if (s.world.write stream (Text.bytes text)).1 then .ok () else .error (.failure .sinkFull),
        { s with world := (s.world.write stream (Text.bytes text)).2 }) := by
  unfold write
  rw [run_bind, run_get]
  dsimp only
  rw [run_bind, run_modify]
  dsimp only
  cases (s.world.write stream (Text.bytes text)).1 <;> rfl

theorem run_flush (stream : Stream) (s : Scene σ) :
    (flush stream).run.run s =
      (if (s.world.flush stream).1 then .ok () else .error (.failure .flushFailed),
        { s with world := (s.world.flush stream).2 }) := by
  unfold flush
  rw [run_bind, run_get]
  dsimp only
  rw [run_bind, run_modify]
  dsimp only
  cases (s.world.flush stream).1 <;> rfl

theorem run_width (stream : Stream) (s : Scene σ) :
    (width stream).run.run s =
      (.ok (resolveWidth (s.world.sinks.get stream).width s.world.columns), s) := rfl

section

variable [Host σ]

theorem run_localized (message : String) (s : Scene σ) :
    (localized message).run.run s = (.ok (Host.localize s.host message).toList, s) := rfl

theorem run_elapsed (s : Scene σ) :
    elapsed.run.run s =
      (.ok (Host.measure s.world.passed s.host).1,
        { s with
          world := s.world.record .askElapsed
          host := (Host.measure s.world.passed s.host).2 }) := rfl

/-- The world once a host has run a command: its output, and the warning about it. -/
def settled (report : ScriptReport) (w : World) : World :=
  let shown := ((w.write .stdout report.stdout).2.write .stderr report.stderr).2
  match report.warning with
  | some text => shown.log "exec" text
  | none => shown

/-- A command is recorded before it runs, and what it wrote follows at once. -/
theorem run_exec (command archive : String) (checkpoint : Nat) (s : Scene σ) :
    (exec command archive checkpoint).run.run s =
      let report := (Host.exec command archive checkpoint s.host).1
      (match report.failure with
        | some text => .error (.failure (.script text))
        | none => .ok (),
        { s with
          world := settled report (s.world.record (.exec command archive checkpoint))
          host := (Host.exec command archive checkpoint s.host).2 }) := by
  unfold exec settled
  rw [run_bind, run_record]
  dsimp only
  rw [run_bind, run_get]
  dsimp only
  rw [run_bind, run_set]
  dsimp only
  rw [run_bind, run_onWorld]
  dsimp only
  rw [run_bind, run_onWorld]
  dsimp only
  cases (Host.exec command archive checkpoint s.host).1.warning <;>
    cases (Host.exec command archive checkpoint s.host).1.failure <;> rfl

/-- The world once a host has logged something about an error, or nothing. -/
def noted (line : Option String) (w : World) : World :=
  match line with
  | some text => w.log "error" text
  | none => w

/-- A report is recorded before the host logs it. -/
theorem run_reportError (message : String) (s : Scene σ) :
    (reportError message).run.run s =
      (.ok (),
        { s with
          world := noted (Host.noteError message s.host).1 (s.world.record (.reportError message))
          host := (Host.noteError message s.host).2 }) := by
  unfold reportError noted
  rw [run_bind, run_record]
  dsimp only
  rw [run_bind, run_get]
  dsimp only
  rw [run_bind, run_set]
  dsimp only
  cases (Host.noteError message s.host).1 <;> rfl

theorem run_printTotals (s : Scene σ) :
    printTotals.run.run s =
      match Host.report s.host with
      | .ok text =>
        (write .stderr text.toList).run.run { s with world := s.world.record .printTotals }
      | .error cause =>
        (.error (.failure cause), { s with world := s.world.record .printTotals }) := by
  unfold printTotals
  rw [run_bind, run_record]
  dsimp only
  rw [run_bind, run_get]
  dsimp only
  cases Host.report s.host <;> rfl

end

/-! ## Relations across an activity -/

/-- An activity stays within a relation: the scenes before and after it are related, however it
ends. -/
def Within (R : Scene σ → Scene σ → Prop) (activity : Act σ α) : Prop :=
  ∀ s, R s (activity.run.run s).2

end Act

/-- Whether an event is a question or a report of a rendering to its host. -/
def Event.isInquiry : Event → Bool
  | askElapsed => true
  | askTotals _ _ => true
  | reportError _ => true
  | _ => false

/-- A relation between scenes that can be chained and admits all that a rendering on a stream does,
apart from the note that it takes of a carriage return. -/
structure Scene.Admits [Host σ] (stream : Stream) (R : Scene σ → Scene σ → Prop) : Prop where
  refl : ∀ s, R s s
  trans : ∀ {s t u}, R s t → R t u → R s u
  write : ∀ s content, R s { s with world := (s.world.write stream content).2 }
  flush : ∀ s, R s { s with world := (s.world.flush stream).2 }
  record : ∀ s event, event.isInquiry = true → R s { s with world := s.world.record event }
  log : ∀ s message, R s { s with world := s.world.log "error" message }
  measure : ∀ s, R s { s with host := (Host.measure s.world.passed s.host).2 }
  noteError : ∀ s message, R s { s with host := (Host.noteError message s.host).2 }

/-- A rendering takes note of a carriage return only where it says so. -/
theorem Scene.admits_lineReset [Host σ] (stream : Stream) :
    Scene.Admits stream fun s t : Scene σ ↦ t.lineReset = s.lineReset where
  refl _ := rfl
  trans hst htu := htu.trans hst
  write _ _ := rfl
  flush _ := rfl
  record _ _ _ := rfl
  log _ _ := rfl
  measure _ := rfl
  noteError _ _ := rfl

/-! ### Windows -/

theorem Sinks.width_get_set_afterWrite (s : Sinks) (stream other : Stream) (content : List UInt8) :
    ((s.set other ((s.get other).afterWrite content)).get stream).width = (s.get stream).width := by
  cases other <;> cases stream <;> rfl

namespace World

def window (stream : Stream) (w : World) : Nat := resolveWidth (w.sinks.get stream).width w.columns

/-- A write takes room from its own sink only. -/
theorem sinks_write (w : World) (stream : Stream) (content : List UInt8) :
    (w.write stream content).2.sinks =
      w.sinks.set stream ((w.sinks.get stream).afterWrite content) := by
  unfold write
  dsimp only
  split <;> rfl

/-- Two worlds with the same windows behind their streams. -/
structure SameWindows (v w : World) : Prop where
  columns : w.columns = v.columns
  width : ∀ stream, (w.sinks.get stream).width = (v.sinks.get stream).width

namespace SameWindows

variable {u v w : World}

theorem refl (w : World) : w.SameWindows w := ⟨rfl, fun _ ↦ rfl⟩

theorem record (w : World) (event : Event) : w.SameWindows (w.record event) := ⟨rfl, fun _ ↦ rfl⟩

theorem trans (hfirst : u.SameWindows v) (hsecond : v.SameWindows w) : u.SameWindows w :=
  ⟨hsecond.columns.trans hfirst.columns, fun stream ↦
    (hsecond.width stream).trans (hfirst.width stream)⟩

theorem window (h : v.SameWindows w) (stream : Stream) : w.window stream = v.window stream := by
  unfold World.window
  rw [h.columns, h.width stream]

theorem write (w : World) (stream : Stream) (content : List UInt8) :
    w.SameWindows (w.write stream content).2 where
  columns := by
    unfold World.write
    dsimp only
    split <;> rfl
  width other := by rw [sinks_write, Sinks.width_get_set_afterWrite]

end SameWindows

end World

/-- Nothing that is done on a stream changes a window. -/
theorem Scene.admits_sameWindows [Host σ] (stream : Stream) :
    Scene.Admits stream fun s t : Scene σ ↦ s.world.SameWindows t.world where
  refl s := .refl s.world
  trans hst htu := hst.trans htu
  write s content := .write s.world stream content
  flush s := .record s.world (.flush stream)
  record s event _ := .record s.world event
  log s message := .write s.world .stderr (Text.bytes (Log.line "error" message))
  measure s := .refl s.world
  noteError s _ := .refl s.world

/-! ### Flushes -/

/-- Whether a sink can be flushed does not change. -/
theorem Scene.admits_flushFails [Host σ] (stream : Stream) :
    Scene.Admits stream fun s t : Scene σ ↦ ∀ other,
      (t.world.sinks.get other).flushFails = (s.world.sinks.get other).flushFails := by
  have hwrite : ∀ (w : World) (onto other : Stream) (content : List UInt8),
      ((w.write onto content).2.sinks.get other).flushFails = (w.sinks.get other).flushFails := by
    intro w onto other content
    rw [World.sinks_write]
    cases onto <;> cases other <;> rfl
  exact {
    refl := fun _ _ ↦ rfl
    trans := fun hst htu other ↦ (htu other).trans (hst other)
    write := fun s content other ↦ hwrite s.world stream other content
    flush := fun _ _ ↦ rfl
    record := fun _ _ _ _ ↦ rfl
    log := fun s _ other ↦ hwrite s.world .stderr other _
    measure := fun _ _ ↦ rfl
    noteError := fun _ _ _ ↦ rfl }

namespace Act.Within

open Template

variable [Host σ] {stream : Stream} {R : Scene σ → Scene σ → Prop}

theorem pure (hR : Scene.Admits stream R) (a : α) : Within R (Pure.pure a : Act σ α) := by
  intro s
  rw [run_pure]
  exact hR.refl s

theorem throw (hR : Scene.Admits stream R) (cause : Interruption) :
    Within R (MonadExcept.throw cause : Act σ α) := by
  intro s
  rw [run_throw]
  exact hR.refl s

theorem bind (hR : Scene.Admits stream R) {first : Act σ α} {second : α → Act σ β}
    (hfirst : Within R first) (hsecond : ∀ a, Within R (second a)) :
    Within R (first >>= second) := by
  intro s
  have hstep := hfirst s
  rw [run_bind]
  rcases hrun : first.run.run s with ⟨cause | a, next⟩
  · rw [hrun] at hstep
    exact hstep
  · rw [hrun] at hstep
    exact hR.trans hstep (hsecond a next)

theorem get (hR : Scene.Admits stream R) : Within R (MonadState.get : Act σ (Scene σ)) := by
  intro s
  rw [run_get]
  exact hR.refl s

theorem write (hR : Scene.Admits stream R) (text : List Char) : Within R (write stream text) := by
  intro s
  rw [run_write]
  exact hR.write s _

theorem flush (hR : Scene.Admits stream R) : Within R (Act.flush stream) := by
  intro s
  rw [run_flush]
  exact hR.flush s

theorem width (hR : Scene.Admits stream R) : Within R (Act.width stream) := by
  intro s
  rw [run_width]
  exact hR.refl s

theorem emit (hR : Scene.Admits stream R) (text : List Char) : Within R (Act.emit stream text) :=
  bind hR (write hR text) fun _ ↦ pure hR _

theorem localized (hR : Scene.Admits stream R) (message : String) :
    Within R (Act.localized message) := by
  intro s
  rw [run_localized]
  exact hR.refl s

theorem elapsed (hR : Scene.Admits stream R) : Within R (Act.elapsed (σ := σ)) := by
  intro s
  rw [run_elapsed]
  exact hR.trans (hR.record s .askElapsed rfl) (hR.measure _)

theorem totals (hR : Scene.Admits stream R) (labels : Labels) (separator : Char) :
    Within R (Act.totals stream labels separator) := by
  refine bind hR (fun s ↦ hR.record s (.askTotals labels separator) rfl) fun _ ↦ ?_
  refine bind hR (get hR) fun s ↦ ?_
  split
  · exact emit hR _
  · exact throw hR _

theorem reportError (hR : Scene.Admits stream R) (message : String) :
    Within R (Act.reportError message) := by
  intro s
  have hnoted := hR.trans (hR.record s (.reportError message) rfl) (hR.noteError _ message)
  rw [run_reportError]
  unfold noted
  cases (Host.noteError message s.host).1 with
  | none => exact hnoted
  | some text => exact hR.trans hnoted (hR.log _ text)

/-! ## Renderings -/

/-- What text is rendered by stays within a relation that admits what is done on its stream. The notes
of carriage returns have to be admitted only where they may be taken. -/
theorem of_textual {returns : Prop} {reports : String → Prop} {activity : Act σ α}
    (h : Textual stream returns reports activity) (hR : Scene.Admits stream R)
    (hreturn : returns → ∀ s : Scene σ, R s { s with lineReset := true }) : Within R activity := by
  induction h with
  | pure a => exact pure hR a
  | crash => exact throw hR .crash
  | bind _ _ hfirst hsecond => exact bind hR hfirst hsecond
  | look _ _ hnext => exact bind hR (get hR) hnext
  | write text => exact write hR text
  | noteReturn h => exact hreturn h
  | elapsed => exact elapsed hR
  | totals labels separator => exact totals hR labels separator
  | reportError _ => exact reportError hR _

variable {job : Template.Job}

/-- A piece by itself. A note of a carriage return has to be admitted only for a literal one. -/
theorem renderPiece {piece : Piece} (hR : Scene.Admits job.stream R)
    (hreturn : piece = .literal '\r' → ∀ s : Scene σ, R s { s with lineReset := true })
    (column : Nat) : Within R (renderPiece job (renderUnknown job 'c') piece column) := by
  have htext : Textual job.stream (piece = .literal '\r') (fun _ ↦ True)
      (Template.renderPiece (σ := σ) job (renderUnknown job 'c') piece column) :=
    .renderPiece id (.renderUnknown 'c') (fun _ _ ↦ trivial) column
  exact of_textual htext hR hreturn

theorem renderText (hreturn : ∀ s : Scene σ, R s { s with lineReset := true })
    (hR : Scene.Admits job.stream R) (template : List Char) (column : Nat) :
    Within R (renderText (σ := σ) job template column) := by
  have htext : Textual job.stream True (fun _ ↦ True)
      (Template.renderText (σ := σ) job template column) :=
    .renderText trivial (fun _ _ ↦ trivial) column
  exact of_textual htext hR fun _ ↦ hreturn

theorem render (hreturn : ∀ s : Scene σ, R s { s with lineReset := true })
    (hR : Scene.Admits job.stream R) (template : List Char) (column : Nat) :
    Within R (render (σ := σ) job template column) :=
  bind hR (renderText hreturn hR template column) fun _ ↦ bind hR (flush hR) fun _ ↦ pure hR _

end Act.Within

end ProgressActions
