import ProgressActions.Engine.Finish
import ProgressActions.Proofs.Performance
import ProgressActions.Proofs.Textual

/-!
# Activities as rows of moves

All that an activity does, it does in elementary moves: it writes to a stream or flushes it, asks its
host for the time or for totals, has a command run, reports an error, or takes note of a carriage
return. Which moves it makes depends on the scene that it finds, but never on what has happened
before: no move looks at the trace.
-/

namespace ProgressActions

open Template

variable {σ α β : Type}

/-! ## What went before -/

/-- The world with something that happened earlier. -/
def World.preceded (earlier : Array Event) (w : World) : World :=
  { w with trace := earlier ++ w.trace }

/-- The scene with something that happened earlier. -/
def Scene.preceded (earlier : Array Event) (s : Scene σ) : Scene σ :=
  { s with world := s.world.preceded earlier }

namespace World

variable (earlier : Array Event) (w : World)

@[simp] theorem preceded_empty : w.preceded #[] = w := by
  simp [preceded]

@[simp] theorem events_preceded : (w.preceded earlier).events = earlier.toList ++ w.events := by
  simp [preceded, events]

/-- The trace that has been forgotten can be put back. -/
theorem preceded_forget : w.forget.preceded w.trace = w := by
  simp [preceded, forget]

theorem record_preceded (event : Event) :
    (w.preceded earlier).record event = (w.record event).preceded earlier := by
  simp [preceded, record]

/-- What a write does is independent of what came before. -/
theorem write_preceded (stream : Stream) (content : List UInt8) :
    (w.preceded earlier).write stream content =
      ((w.write stream content).1, (w.write stream content).2.preceded earlier) := by
  have hsinks : (w.preceded earlier).sinks = w.sinks := rfl
  let next := { w with sinks := w.sinks.set stream ((w.sinks.get stream).afterWrite content) }
  unfold write
  rw [hsinks]
  dsimp only
  split
  · rfl
  · exact congrArg (Prod.mk _) (record_preceded earlier next _)

theorem flush_preceded (stream : Stream) :
    (w.preceded earlier).flush stream =
      ((w.flush stream).1, (w.flush stream).2.preceded earlier) :=
  congrArg (Prod.mk _) (record_preceded earlier w _)

theorem log_preceded (moduleName message : String) :
    (w.preceded earlier).log moduleName message = (w.log moduleName message).preceded earlier :=
  congrArg Prod.snd (write_preceded earlier w .stderr _)

theorem debug_preceded (moduleName message : String) :
    (w.preceded earlier).debug moduleName message =
      (w.debug moduleName message).preceded earlier := by
  unfold debug
  rw [log_preceded]
  exact (apply_ite _ _ _ _).symm

theorem pause_preceded (time : Duration) :
    (w.preceded earlier).pause time = (w.pause time).preceded earlier := by
  unfold pause
  rw [record_preceded]
  split <;> rfl

theorem settled_preceded (report : ScriptReport) :
    Act.settled report (w.preceded earlier) = (Act.settled report w).preceded earlier := by
  unfold Act.settled
  rw [write_preceded, write_preceded]
  dsimp only
  split
  · exact log_preceded earlier _ _ _
  · rfl

theorem noted_preceded (line : Option String) :
    Act.noted line (w.preceded earlier) = (Act.noted line w).preceded earlier := by
  cases line with
  | none => rfl
  | some text => exact log_preceded earlier w _ _

end World

/-! ## Moves -/

/-- An elementary move of an activity. -/
inductive Move where
  | write (stream : Stream) (content : List UInt8)
  | flush (stream : Stream)
  | askElapsed
  | askTotals (labels : Labels) (separator : Char)
  | printTotals
  | exec (command archive : String) (checkpoint : Nat)
  | reportError (message : String)
  /-- A carriage return of a template is noted. -/
  | returnLine

namespace Scene

variable [Host σ]

def move (s : Scene σ) : Move → Scene σ
  | .write stream content => { s with world := (s.world.write stream content).2 }
  | .flush stream => { s with world := (s.world.flush stream).2 }
  | .askElapsed =>
    { s with
      world := s.world.record .askElapsed
      host := (Host.measure s.world.passed s.host).2 }
  | .askTotals labels separator => { s with world := s.world.record (.askTotals labels separator) }
  | .printTotals => { s with world := s.world.record .printTotals }
  | .exec command archive checkpoint =>
    { s with
      world := Act.settled (Host.exec command archive checkpoint s.host).1
        (s.world.record (.exec command archive checkpoint))
      host := (Host.exec command archive checkpoint s.host).2 }
  | .reportError message =>
    { s with
      world := Act.noted (Host.noteError message s.host).1 (s.world.record (.reportError message))
      host := (Host.noteError message s.host).2 }
  | .returnLine => { s with lineReset := true }

def moves (s : Scene σ) (row : List Move) : Scene σ := row.foldl move s

@[simp] theorem moves_nil (s : Scene σ) : s.moves [] = s := rfl

@[simp] theorem moves_cons (s : Scene σ) (m : Move) (rest : List Move) :
    s.moves (m :: rest) = (s.move m).moves rest := rfl

@[simp] theorem moves_append (s : Scene σ) (first second : List Move) :
    s.moves (first ++ second) = (s.moves first).moves second :=
  List.foldl_append

/-- What every move of a kind keeps, a row of such moves keeps. -/
theorem moves_of_kept (kind : Move → Prop) (P : Scene σ → Prop)
    (hkept : ∀ s m, kind m → P s → P (s.move m)) {row : List Move} (hrow : ∀ m ∈ row, kind m)
    {s : Scene σ} (h : P s) : P (s.moves row) := by
  induction row generalizing s with
  | nil => exact h
  | cons m rest ih =>
    have hfirst := hkept s m (hrow m List.mem_cons_self) h
    exact ih (fun other hother ↦ hrow other (List.mem_cons_of_mem _ hother)) hfirst

/-- No move looks at what has happened before. -/
theorem move_preceded (earlier : Array Event) (s : Scene σ) (m : Move) :
    (s.preceded earlier).move m = (s.move m).preceded earlier := by
  cases m with
  | write stream content =>
    simp only [move, preceded, World.write_preceded]
  | flush stream => simp only [move, preceded, World.flush_preceded]
  | askElapsed => simp only [move, preceded, World.record_preceded]; rfl
  | askTotals labels separator => simp only [move, preceded, World.record_preceded]
  | printTotals => simp only [move, preceded, World.record_preceded]
  | exec command archive checkpoint =>
    simp only [move, preceded, World.record_preceded, World.settled_preceded]
  | reportError message =>
    simp only [move, preceded, World.record_preceded, World.noted_preceded]
  | returnLine => rfl

end Scene

/-! ## Activities -/

/-- Whether moves of a kind are enough to render on a stream, errors apart. -/
structure Move.Renders (stream : Stream) (kind : Move → Prop) : Prop where
  write : ∀ content, kind (.write stream content)
  flush : kind (.flush stream)
  askElapsed : kind .askElapsed
  askTotals : ∀ labels separator, kind (.askTotals labels separator)
  returnLine : kind .returnLine

namespace Act

variable [Host σ]

/-- The text that an echo renders, as its host words it. -/
def echoed (isWrite : Bool) (template : Option String) (host : σ) : List Char :=
  match template with
  | some text => text.toList
  | none => (Host.localize host (if isWrite then writeMessage else readMessage)).toList

/-- An activity is made of moves of a kind: from every scene it comes to an outcome by a row of such
moves, whatever happened before. -/
def MadeOf (kind : Move → Prop) (activity : Act σ α) : Prop :=
  ∀ s : Scene σ, ∃ outcome row, (∀ m ∈ row, kind m) ∧
    ∀ earlier, activity.run.run (s.preceded earlier) = (outcome, (s.moves row).preceded earlier)

namespace MadeOf

variable {kind : Move → Prop} {activity : Act σ α}

/-- An activity made of moves leads where a row of moves leads. -/
theorem exists_moves (h : MadeOf kind activity) (s : Scene σ) :
    ∃ row, (∀ m ∈ row, kind m) ∧ (activity.run.run s).2 = s.moves row := by
  obtain ⟨outcome, row, hkind, hrun⟩ := h s
  have hplain := hrun #[]
  simp only [Scene.preceded, World.preceded_empty] at hplain
  exact ⟨row, hkind, by rw [hplain]⟩

theorem pure (a : α) : MadeOf kind (Pure.pure a : Act σ α) := fun s ↦
  ⟨.ok a, [], by simp, fun _ ↦ rfl⟩

theorem throw (cause : Interruption) : MadeOf kind (MonadExcept.throw cause : Act σ α) := fun s ↦
  ⟨.error cause, [], by simp, fun _ ↦ rfl⟩

theorem bind {first : Act σ α} {second : α → Act σ β} (hfirst : MadeOf kind first)
    (hsecond : ∀ a, MadeOf kind (second a)) : MadeOf kind (first >>= second) := by
  intro s
  obtain ⟨outcome, row, hrow, hrun⟩ := hfirst s
  cases outcome with
  | error cause =>
    refine ⟨.error cause, row, hrow, fun earlier ↦ ?_⟩
    rw [run_bind, hrun]
  | ok a =>
    obtain ⟨last, later, hlater, hnext⟩ := hsecond a (s.moves row)
    refine ⟨last, row ++ later, fun m hm ↦ (List.mem_append.1 hm).elim (hrow m) (hlater m),
      fun earlier ↦ ?_⟩
    rw [run_bind, hrun, Scene.moves_append]
    exact hnext earlier

/-- An activity that looks at its scene, but not at the trace. -/
theorem get_bind {second : Scene σ → Act σ β}
    (hblind : ∀ s earlier, second (s.preceded earlier) = second s)
    (hsecond : ∀ s, MadeOf kind (second s)) : MadeOf kind (MonadState.get >>= second) := by
  intro s
  obtain ⟨outcome, row, hrow, hrun⟩ := hsecond s s
  refine ⟨outcome, row, hrow, fun earlier ↦ ?_⟩
  rw [run_bind, run_get]
  dsimp only
  rw [hblind, hrun]

/-- An activity that makes a single move, with an outcome that does not depend on the trace. -/
theorem of_move {activity : Act σ α} (m : Move) (hm : kind m)
    (outcome : Scene σ → Except Interruption α)
    (hblind : ∀ s earlier, outcome (s.preceded earlier) = outcome s)
    (hrun : ∀ s, activity.run.run s = (outcome s, s.move m)) : MadeOf kind activity := by
  intro s
  refine ⟨outcome s, [m], by simpa using hm, fun earlier ↦ ?_⟩
  rw [hrun, hblind, Scene.move_preceded]
  rfl

/-! ### Single moves -/

variable {stream : Stream}

theorem write (hkind : ∀ content, kind (.write stream content)) (text : List Char) :
    MadeOf kind (Act.write (σ := σ) stream text) :=
  of_move (.write stream (Text.bytes text)) (hkind _) _
    (fun s earlier ↦ by simp only [Scene.preceded, World.write_preceded])
    fun s ↦ run_write stream text s

theorem flush (hkind : kind (.flush stream)) : MadeOf kind (Act.flush (σ := σ) stream) :=
  of_move (.flush stream) hkind _
    (fun s earlier ↦ by simp only [Scene.preceded, World.flush_preceded]) fun s ↦ run_flush stream s

theorem elapsed (hkind : kind .askElapsed) : MadeOf kind (Act.elapsed (σ := σ)) :=
  of_move .askElapsed hkind _ (fun _ _ ↦ rfl) fun s ↦ run_elapsed s

theorem reportError {message : String} (hkind : kind (.reportError message)) :
    MadeOf kind (Act.reportError (σ := σ) message) :=
  of_move (.reportError message) hkind _ (fun _ _ ↦ rfl) fun s ↦ run_reportError message s

theorem exec {command archive : String} {checkpoint : Nat}
    (hkind : kind (.exec command archive checkpoint)) :
    MadeOf kind (Act.exec (σ := σ) command archive checkpoint) :=
  of_move (.exec command archive checkpoint) hkind _ (fun _ _ ↦ rfl) fun s ↦
    run_exec command archive checkpoint s

theorem emit (hkind : ∀ content, kind (.write stream content)) (text : List Char) :
    MadeOf kind (Act.emit (σ := σ) stream text) :=
  bind (write hkind text) fun _ ↦ pure _

theorem width : MadeOf kind (Act.width (σ := σ) stream) :=
  get_bind (fun _ _ ↦ rfl) fun _ ↦ pure _

/-- What follows a question for a text depends on the host's wording only. -/
theorem localized_bind {message : String} {second : List Char → Act σ β}
    (h : ∀ host : σ, MadeOf kind (second (Host.localize host message).toList)) :
    MadeOf kind (Act.localized message >>= second) := by
  intro s
  obtain ⟨outcome, row, hrow, hrun⟩ := h s.host s
  refine ⟨outcome, row, hrow, fun earlier ↦ ?_⟩
  rw [run_bind, run_localized]
  exact hrun earlier

theorem totals (hrenders : Move.Renders stream kind) (labels : Labels) (separator : Char) :
    MadeOf kind (Act.totals (σ := σ) stream labels separator) := by
  have hasked : MadeOf kind (Act.record (σ := σ) (.askTotals labels separator)) :=
    of_move (.askTotals labels separator) (hrenders.askTotals _ _) _ (fun _ _ ↦ rfl) fun _ ↦ rfl
  refine bind hasked fun _ ↦ get_bind (fun _ _ ↦ rfl) fun s ↦ ?_
  split
  · exact emit hrenders.write _
  · exact throw _

theorem printTotals (hkind : kind .printTotals) (hwrite : ∀ content, kind (.write .stderr content)) :
    MadeOf kind (Act.printTotals (σ := σ)) := by
  have hasked : MadeOf kind (Act.record (σ := σ) .printTotals) :=
    of_move .printTotals hkind _ (fun _ _ ↦ rfl) fun _ ↦ rfl
  refine bind hasked fun _ ↦ get_bind (fun _ _ ↦ rfl) fun s ↦ ?_
  split
  · exact write hwrite _
  · exact throw _

/-! ### Renderings -/

/-- What text is rendered by is made of writes, questions, notes of carriage returns, and the reports
that it makes. -/
theorem of_textual {returns : Prop} {reports : String → Prop}
    (h : Textual stream returns reports activity) (hrenders : Move.Renders stream kind)
    (hreports : ∀ message, reports message → kind (.reportError message)) :
    MadeOf kind activity := by
  induction h with
  | pure a => exact pure a
  | crash => exact throw .crash
  | bind _ _ hfirst hsecond => exact bind hfirst hsecond
  | look hview _ hnext => exact get_bind (fun s earlier ↦ hview s _ ⟨rfl, rfl, rfl⟩) hnext
  | write text => exact write hrenders.write text
  | noteReturn _ => exact of_move .returnLine hrenders.returnLine _ (fun _ _ ↦ rfl) fun _ ↦ rfl
  | elapsed => exact elapsed hrenders.askElapsed
  | totals labels separator => exact totals hrenders labels separator
  | reportError hmessage => exact reportError (hreports _ hmessage)

/-- A rendering is made of writes, flushes, questions, notes of carriage returns, and the reports that
its template gives cause for. -/
theorem render {job : Template.Job} (hrenders : Move.Renders job.stream kind) {template : List Char}
    (hreports : ∀ message ∈ complaints template, kind (.reportError message)) (column : Nat) :
    MadeOf kind (render (σ := σ) job template column) := by
  have htext : Textual job.stream True (fun message ↦ kind (.reportError message))
      (Template.renderText (σ := σ) job template column) := .renderText trivial hreports column
  refine bind (of_textual htext hrenders fun _ h ↦ h) fun _ ↦ ?_
  exact bind (flush hrenders.flush) fun _ ↦ pure _

/-! ### Activities of actions -/

theorem put (hwrite : ∀ content, kind (.write stream content)) (hflush : kind (.flush stream))
    (text : List Char) : MadeOf kind (Act.put (σ := σ) stream text) :=
  bind (write hwrite text) fun _ ↦ flush hflush

theorem echo (hrenders : Move.Renders stream kind) (isWrite : Bool) (checkpoint : Nat)
    {template : Option String}
    (hreports : ∀ host : σ, ∀ message ∈ complaints (echoed isWrite template host),
      kind (.reportError message)) :
    MadeOf kind (Act.echo (σ := σ) stream isWrite checkpoint template) := by
  refine get_bind (fun _ _ ↦ rfl) fun s ↦ bind (write hrenders.write _) fun _ ↦ ?_
  have hline : ∀ host : σ, MadeOf kind (do
      let opening := (Host.name s.host ++ ": ").toList
      let _ ← Template.render { stream, isWrite, checkpoint } (echoed isWrite template host)
        opening.length
      Act.put stream ['\n'] : Act σ Unit) := fun host ↦
    bind (render hrenders (hreports host) _) fun _ ↦ put hrenders.write hrenders.flush _
  cases template with
  | some text =>
    dsimp only
    rw [pure_bind]
    exact hline s.host
  | none => exact localized_bind hline

theorem ttyText (hrenders : Move.Renders .terminal kind) (isWrite : Bool) (checkpoint : Nat)
    {template : String}
    (hreports : ∀ message ∈ complaints template.toList, kind (.reportError message)) :
    MadeOf kind (Act.ttyText (σ := σ) isWrite checkpoint template) :=
  bind (render hrenders hreports _) fun _ ↦ pure _

theorem freshTotals (hkind : kind .askElapsed) (hprint : kind .printTotals)
    (hwrite : ∀ content, kind (.write .stderr content)) :
    MadeOf kind (Act.freshTotals (σ := σ)) :=
  bind (elapsed hkind) fun _ ↦ printTotals hprint hwrite

theorem clearLine (hwrite : ∀ content, kind (.write .terminal content))
    (hflush : kind (.flush .terminal)) : MadeOf kind (Act.clearLine (σ := σ)) := by
  refine bind width fun columns ↦ ?_
  dsimp only
  split
  · exact bind (throw _) fun _ ↦ put hwrite hflush _
  · exact put hwrite hflush _

end MadeOf

end Act

end ProgressActions
