import Mathlib.Data.List.Basic
import ProgressActions.Proofs.Account
import ProgressActions.Proofs.Call

/-!
# Where a fault comes from

A program fails in many ways that an engine survives. Two things in a template it does not survive:
blanks up to a column that is too far away, and a time pattern with a form that can only be read. A
rendering is followed piece by piece; it ends in a fault exactly if it comes to a piece that is at
fault, and so does a program, and so does a tick.
-/

namespace ProgressActions

open Calendar Template

namespace Calendar

theorem itemText?_eq_none_iff {t : LocalTime} {item : Item} :
    itemText? t item = none ↔ item = .unwritable := by
  cases item with
  | fraction =>
    unfold itemText?
    by_cases h : t.nanosecond = 0 <;> simp [h]
  | _ => simp [itemText?]

/-- A time is not written if one of its items cannot be. -/
theorem itemsText?_eq_none_iff {t : LocalTime} {items : List Item} :
    itemsText? t items = none ↔ .unwritable ∈ items := by
  induction items with
  | nil => simp [itemsText?]
  | cons item rest ih =>
    rw [itemsText?, List.mem_cons, ← ih, eq_comm (a := Item.unwritable),
      ← itemText?_eq_none_iff (t := t)]
    cases itemText? t item <;> cases itemsText? t rest <;> simp

/-- A time cannot be written exactly if it is known and its pattern has a form that can only be
read. -/
theorem timeText?_eq_none_iff {pattern : List Char} {now : Option LocalTime} :
    timeText? pattern now = none ↔
      now ≠ none ∧ ∃ items, parsePattern? pattern = some items ∧ .unwritable ∈ items := by
  unfold timeText?
  cases parsePattern? pattern with
  | none => simp
  | some items =>
    cases now with
    | none => simp
    | some t => simp [itemsText?_eq_none_iff]

end Calendar

variable {σ α β : Type}

/-! ## Activities without faults -/

namespace Act

/-- An activity that never ends in a fault. -/
def Calm (activity : Act σ α) : Prop := ∀ s, (activity.run.run s).1 ≠ .error .crash

theorem ne_crash_of_run {activity : Act σ α} {s last : Scene σ} {a : α}
    (h : activity.run.run s = (.ok a, last)) : (activity.run.run s).1 ≠ .error .crash := by
  rw [h]
  exact nofun

namespace Calm

variable {first : Act σ α} {second : α → Act σ β}

theorem bind (hfirst : Calm first) (hsecond : ∀ a, Calm (second a)) : Calm (first >>= second) := by
  intro s
  have hcalm := hfirst s
  rw [run_bind]
  rcases hrun : first.run.run s with ⟨cause | a, next⟩
  · rw [hrun] at hcalm
    simpa using hcalm
  · exact hsecond a next

/-- What follows without a fault does not matter. -/
theorem bind_eq_crash_iff (hsecond : ∀ a, Calm (second a)) (s : Scene σ) :
    ((first >>= second).run.run s).1 = .error .crash ↔ (first.run.run s).1 = .error .crash := by
  rw [run_bind]
  rcases first.run.run s with ⟨cause | a, next⟩
  · simp
  · exact iff_of_false (hsecond a next) (by simp)

theorem pure (a : α) : Calm (Pure.pure a : Act σ α) :=
  fun s ↦ ne_crash_of_run (run_pure a s)

theorem fail (cause : Failure) : Calm (Act.fail cause : Act σ α) := by
  intro s
  unfold Act.fail
  rw [run_throw]
  simp

theorem get : Calm (MonadState.get : Act σ (Scene σ)) :=
  fun s ↦ ne_crash_of_run (run_get s)

theorem record (event : Event) : Calm (Act.record (σ := σ) event) :=
  fun s ↦ ne_crash_of_run (run_record event s)

theorem write (stream : Stream) (text : List Char) : Calm (Act.write (σ := σ) stream text) := by
  intro s
  rw [run_write]
  dsimp only
  split <;> simp

theorem flush (stream : Stream) : Calm (Act.flush (σ := σ) stream) := by
  intro s
  rw [run_flush]
  dsimp only
  split <;> simp

theorem emit (stream : Stream) (text : List Char) : Calm (Act.emit (σ := σ) stream text) :=
  bind (write stream text) fun _ ↦ pure _

theorem put (stream : Stream) (text : List Char) : Calm (Act.put (σ := σ) stream text) :=
  bind (write stream text) fun _ ↦ flush stream

variable [Host σ]

theorem localized (message : String) : Calm (Act.localized (σ := σ) message) :=
  fun s ↦ ne_crash_of_run (run_localized message s)

theorem elapsed : Calm (Act.elapsed (σ := σ)) :=
  fun s ↦ ne_crash_of_run (run_elapsed s)

theorem totals (stream : Stream) (labels : Labels) (separator : Char) :
    Calm (Act.totals (σ := σ) stream labels separator) := by
  refine bind (record _) fun _ ↦ bind get fun s ↦ ?_
  split
  · exact emit stream _
  · exact fail _

theorem reportError (message : String) : Calm (Act.reportError (σ := σ) message) :=
  fun s ↦ ne_crash_of_run (run_reportError message s)

theorem totalsLabels (argument : Option Argument) :
    Calm (Template.totalsLabels (σ := σ) argument) := by
  unfold Template.totalsLabels
  cases argument with
  | none => exact pure _
  | some a =>
    dsimp only
    split
    · exact pure _
    · exact bind (reportError _) fun _ ↦ pure _

theorem exec (command archive : String) (checkpoint : Nat) :
    Calm (Act.exec (σ := σ) command archive checkpoint) := by
  intro s
  rw [run_exec]
  dsimp only
  split <;> simp

theorem freshTotals : Calm (Act.freshTotals (σ := σ)) := by
  refine bind elapsed fun _ ↦ bind (record _) fun _ ↦ bind get fun s ↦ ?_
  split
  · exact write .stderr _
  · exact fail _

end Calm

end Act

/-! ## Faults of renderings -/

namespace Template

/-- A piece that a rendering comes to, with the column and the scene that it finds there. -/
structure Visit (σ : Type) where
  job : Job
  piece : Piece
  column : Nat
  scene : Scene σ

/-- The column up to which padding goes: as its argument says, or else the width of the window. -/
def paddingTarget (job : Job) (argument : Option Argument) (w : World) : Nat :=
  match argument.bind (Text.word? ·.value) with
  | some n => n
  | none => w.window job.stream

def timePattern (argument : Option Argument) : List Char := (argument.map (·.value)).getD "%c".toList

/-- A piece that is at fault where it stands. -/
inductive Visit.Fault : Visit σ → Prop where
  /-- There are more blanks to be written than can be written at once. -/
  | padding {job : Job} {argument : Option Argument} {column : Nat} {scene : Scene σ}
      (hwide : maxPadding < paddingTarget job argument scene.world - column) :
      Fault ⟨job, .directive '*' argument, column, scene⟩
  /-- The time is known, and its pattern has a form that can only be read. -/
  | pattern {job : Job} {argument : Option Argument} {column : Nat} {scene : Scene σ}
      {items : List Item} (hknown : scene.world.localTime? ≠ none)
      (hpattern : parsePattern? (timePattern argument) = some items)
      (hitem : .unwritable ∈ items) :
      Fault ⟨job, .directive 't' argument, column, scene⟩

variable [Host σ]

/-- The pieces of a row that a rendering comes to, the one that it ends at included. -/
def visits (job : Job) : List Piece → (column : Nat) → Scene σ → List (Visit σ)
  | [], _, _ => []
  | piece :: rest, column, s =>
    ⟨job, piece, column, s⟩ ::
      match (renderPiece job (renderUnknown job 'c') piece column).run.run s with
      | (.ok last, next) => visits job rest last next
      | (.error _, _) => []

omit [Host σ] in
theorem renderPadding_eq_crash_iff (job : Job) (argument : Option Argument) (column : Nat)
    (s : Scene σ) :
    ((renderPadding job argument column).run.run s).1 = .error .crash ↔
      maxPadding < paddingTarget job argument s.world - column := by
  have hpad (target : Nat) :
      ((do
        let padding := target - column
        if maxPadding < padding then throw .crash
        Act.write job.stream (List.replicate padding ' ')
        pure (column + padding) : Act σ Nat).run.run s).1 = .error .crash ↔
        maxPadding < target - column := by
    dsimp only
    split
    · rename_i hwide
      rw [Act.run_bind, Act.run_throw]
      exact iff_of_true rfl hwide
    · rename_i hfits
      exact iff_of_false (Act.Calm.bind (.write _ _) (fun _ ↦ .pure _) s) hfits
  unfold renderPadding paddingTarget
  cases argument.bind (Text.word? ·.value) with
  | some n => exact hpad n
  | none => exact hpad (s.world.window job.stream)

omit [Host σ] in
/-- A time directive is a fault if its time cannot be written. -/
theorem renderTime_eq_crash_iff (job : Job) (argument : Option Argument) (column : Nat)
    (s : Scene σ) :
    ((renderTime job argument column).run.run s).1 = .error .crash ↔
      timeText? (timePattern argument) s.world.localTime? = none := by
  unfold renderTime
  rw [Act.run_bind, Act.run_get]
  dsimp only
  unfold timePattern
  split
  · rename_i text htext
    rw [htext]
    exact iff_of_false (Act.Calm.bind (.emit _ _) (fun _ ↦ .pure _) s) (by simp)
  · rename_i hnone
    rw [hnone, Act.run_throw]
    simp

/-- No other directive is ever a fault. -/
theorem renderDirective_eq_crash_iff (job : Job) (letter : Char) (argument : Option Argument)
    (column : Nat) (s : Scene σ) :
    ((renderDirective job (renderUnknown job 'c') letter argument column).run.run s).1 =
        .error .crash ↔
      Visit.Fault ⟨job, .directive letter argument, column, s⟩ := by
  have hcalm {activity : Act σ Nat} (hactivity : activity.Calm) (hpadding : letter ≠ '*')
      (hpattern : letter ≠ 't') :
      (activity.run.run s).1 = .error .crash ↔
        Visit.Fault ⟨job, .directive letter argument, column, s⟩ := by
    refine iff_of_false (hactivity s) fun h ↦ ?_
    cases h
    · exact hpadding rfl
    · exact hpattern rfl
  unfold renderDirective
  split
  · exact hcalm (.bind (.write _ _) fun _ ↦ .pure _) (by decide) (by decide)
  · exact hcalm (.bind (.emit _ _) fun _ ↦ .pure _) (by decide) (by decide)
  · exact hcalm (.bind (.localized _) fun _ ↦ .bind (.emit _ _) fun _ ↦ .pure _) (by decide)
      (by decide)
  · exact hcalm (.bind .elapsed fun _ ↦ .bind (.emit _ _) fun _ ↦ .pure _) (by decide) (by decide)
  · exact hcalm (.bind .elapsed fun _ ↦ .bind (.totalsLabels argument) fun _ ↦
      .bind (.totals _ _ _) fun _ ↦ .pure _) (by decide) (by decide)
  · rw [renderTime_eq_crash_iff, timeText?_eq_none_iff]
    exact ⟨fun ⟨hknown, _, hpattern, hitem⟩ ↦ .pattern hknown hpattern hitem,
      fun | .pattern hknown hpattern hitem => ⟨hknown, _, hpattern, hitem⟩⟩
  · rw [renderPadding_eq_crash_iff]
    exact ⟨.padding, fun | .padding hwide => hwide⟩
  · rename_i hpattern hpadding
    exact hcalm (.bind (.write _ _) fun _ ↦ .pure _) hpadding hpattern

/-- A piece ends in a fault exactly if it is at fault. -/
theorem renderPiece_eq_crash_iff (job : Job) (piece : Piece) (column : Nat) (s : Scene σ) :
    ((renderPiece job (renderUnknown job 'c') piece column).run.run s).1 = .error .crash ↔
      Visit.Fault ⟨job, piece, column, s⟩ := by
  cases piece with
  | literal c =>
    have hcalm : (renderLiteral (σ := σ) job c column).Calm := by
      refine .bind (.write _ _) fun _ ↦ ?_
      split
      · exact .bind (fun next ↦ Act.ne_crash_of_run (Act.run_modify _ next)) fun _ ↦ .pure _
      · exact .pure _
    exact iff_of_false (hcalm s) nofun
  | unclosed => exact iff_of_false (Act.Calm.bind (.write _ _) (fun _ ↦ .pure _) s) nofun
  | directive letter argument => exact renderDirective_eq_crash_iff job letter argument column s
  | dangling argument =>
    have hcalm : (renderDangling (σ := σ) job argument column).Calm := by
      refine .bind (.write _ _) fun _ ↦ ?_
      cases argument with
      | none => exact .pure _
      | some a => exact .bind (.write _ _) fun _ ↦ .pure _
    exact iff_of_false (hcalm s) nofun

/-- A row of pieces ends in a fault exactly if it comes to a piece that is at fault. -/
theorem renderPieces_eq_crash_iff (job : Job) (row : List Piece) (column : Nat) (s : Scene σ) :
    ((renderPieces job (renderUnknown job 'c') row column).run.run s).1 = .error .crash ↔
      ∃ visit ∈ visits job row column s, visit.Fault := by
  induction row generalizing column s with
  | nil => simp [renderPieces, visits]
  | cons piece rest ih =>
    have hfirst := renderPiece_eq_crash_iff job piece column s
    rw [renderPieces, Act.run_bind, visits]
    simp only [List.mem_cons, exists_eq_or_imp]
    rw [← hfirst]
    rcases (renderPiece job (renderUnknown job 'c') piece column).run.run s
      with ⟨cause | last, next⟩
    · simp
    · simp [ih]

/-- What a rendering of a template comes to. -/
def textVisits (job : Job) (template : List Char) (column : Nat) (s : Scene σ) : List (Visit σ) :=
  visits job (inlined (pieces template)) column s

/-- A rendering is a fault exactly if it comes to a piece at fault. -/
theorem render_eq_crash_iff (job : Job) (template : List Char) (column : Nat) (s : Scene σ) :
    ((render job template column).run.run s).1 = .error .crash ↔
      ∃ visit ∈ textVisits job template column s, visit.Fault := by
  unfold render renderText
  rw [renderPieces_inlined, Act.Calm.bind_eq_crash_iff fun _ ↦ .bind (.flush _) fun _ ↦ .pure _]
  exact renderPieces_eq_crash_iff job _ column s

end Template

namespace Session

variable [Host σ]

/-! ## Faults of programs -/

/-- The text of an echo: its template, or the message of a bare echo as the host words it. -/
def echoedText (isWrite : Bool) (host : σ) : Option String → List Char
  | some template => template.toList
  | none => (Host.localize host (if isWrite then writeMessage else readMessage)).toList

/-- What an echo comes to once the name of the host is written. -/
def echoVisits (stream : Stream) (isWrite : Bool) (checkpoint : Nat) (template : Option String)
    (s : Scene σ) : List (Visit σ) :=
  let opening := (Host.name s.host ++ ": ").toList
  let job : Template.Job := { stream, isWrite, checkpoint }
  match (Act.write stream opening).run.run s with
  | (.ok (), next) => textVisits job (echoedText isWrite s.host template) opening.length next
  | (.error _, _) => []

def actionVisits (isWrite : Bool) (s : Session σ) : Action → List (Visit σ)
  | .echo => echoVisits s.engine.console.diagnostics isWrite s.engine.ticks none s.scene
  | .echoText template =>
    echoVisits s.engine.console.diagnostics isWrite s.engine.ticks (some template) s.scene
  | .ttyText template =>
    if s.openTerminal.engine.slot = .opened then
      textVisits { stream := .terminal, isWrite, checkpoint := s.engine.ticks } template.toList 0
        s.openTerminal.scene
    else []
  | _ => []

/-- What the actions of a program come to that are begun. -/
def programVisits (isWrite : Bool) (program : List Action) (s : Session σ) : List (Visit σ) :=
  ((s.begun isWrite program).zip (s.stages isWrite program)).flatMap fun (action, found) ↦
    found.actionVisits isWrite action

/-- What a tick comes to: something only if it runs the program. -/
def tickVisits (isWrite : Bool) (s : Session σ) : List (Visit σ) :=
  if s.engine.isSealed = true ∧ s.engine.isEnabled = true ∧ s.count.engine.isDue = true then
    s.count.programVisits isWrite s.engine.program
  else []

theorem echo_eq_crash_iff (stream : Stream) (isWrite : Bool) (checkpoint : Nat)
    (template : Option String) (s : Scene σ) :
    ((Act.echo stream isWrite checkpoint template).run.run s).1 = .error .crash ↔
      ∃ visit ∈ echoVisits stream isWrite checkpoint template s, visit.Fault := by
  have hrender (text : List Char) (column : Nat) (next : Scene σ) :=
    (Act.Calm.bind_eq_crash_iff (fun _ ↦ .put stream ['\n']) next).trans
      (render_eq_crash_iff { stream, isWrite, checkpoint } text column next)
  have hhost :
      (((Act.write stream (Host.name s.host ++ ": ").toList).run.run s).2).host = s.host := by
    rw [Act.run_write]
  unfold Act.echo echoVisits
  rw [Act.run_bind, Act.run_get]
  dsimp only
  rw [Act.run_bind]
  rcases hwrite : (Act.write stream (Host.name s.host ++ ": ").toList).run.run s
    with ⟨cause | done, next⟩
  · have hcalm := Act.Calm.write (σ := σ) stream (Host.name s.host ++ ": ").toList s
    rw [hwrite] at hcalm
    exact iff_of_false (by simpa using hcalm) (by simp)
  · rw [hwrite] at hhost
    cases template with
    | some text => exact hrender text.toList _ next
    | none =>
      dsimp only at hhost ⊢
      unfold echoedText
      rw [← hhost]
      exact hrender _ _ next

omit [Host σ] in
/-- Without a terminal there is no fault. -/
theorem withTerminal_eq_crash_iff (activity : Act σ Unit) (s : Session σ) :
    (s.withTerminal activity).1 = .error .crash ↔
      s.openTerminal.engine.slot = .opened ∧
        (activity.run.run s.openTerminal.scene).1 = .error .crash := by
  unfold withTerminal
  dsimp only
  split
  · rename_i hopened
    exact (and_iff_right hopened).symm
  · rename_i hshut
    exact iff_of_false nofun fun h ↦ hshut h.1

/-- An action ends in a fault exactly if its template comes to a piece that is at fault. -/
theorem perform_eq_crash_iff (isWrite : Bool) (action : Action) (s : Session σ) :
    (s.perform isWrite action).1 = .error .crash ↔
      ∃ visit ∈ s.actionVisits isWrite action, visit.Fault := by
  have hcalm {activity : Act σ Unit} (hactivity : activity.Calm) :
      (s.attempt activity).1 = .error .crash ↔ ∃ visit ∈ ([] : List (Visit σ)), visit.Fault :=
    iff_of_false (hactivity s.scene) (by simp)
  cases action with
  | dot => exact hcalm (.put _ _)
  | bell =>
    change (s.withTerminal (Act.put .terminal ['\x07'])).1 = .error .crash ↔ _
    rw [withTerminal_eq_crash_iff]
    exact iff_of_false (fun h ↦ Act.Calm.put _ _ _ h.2) (by simp [actionVisits])
  | echo => exact echo_eq_crash_iff _ isWrite s.engine.ticks none s.scene
  | echoText template => exact echo_eq_crash_iff _ isWrite s.engine.ticks (some template) s.scene
  | ttyText template =>
    change (s.withTerminal (Act.ttyText isWrite s.engine.ticks template)).1 = .error .crash ↔ _
    have hrender := (Act.Calm.bind_eq_crash_iff (fun _ ↦ .pure ()) s.openTerminal.scene).trans
      (render_eq_crash_iff { stream := .terminal, isWrite, checkpoint := s.engine.ticks }
        template.toList 0 s.openTerminal.scene)
    rw [withTerminal_eq_crash_iff]
    unfold Act.ttyText actionVisits
    dsimp only
    rw [hrender]
    split
    · rename_i hopened
      exact and_iff_right hopened
    · rename_i hshut
      exact iff_of_false (fun h ↦ hshut h.1) (by simp)
  | sleep seconds => exact iff_of_false (by simp [perform_sleep]) (by simp [actionVisits])
  | exec command => exact hcalm (.exec command _ s.engine.ticks)
  | totals => exact hcalm .freshTotals
  | wait signal => exact iff_of_false (by simp [perform]) (by simp [actionVisits])

/-- Where an action is a fault, the later ones are not begun. -/
theorem programVisits_cons (isWrite : Bool) (action : Action) (rest : List Action)
    (s : Session σ) :
    s.programVisits isWrite (action :: rest) =
      s.actionVisits isWrite action ++
        match (s.perform isWrite action).1 with
        | .error .crash => []
        | _ => (s.carryOut isWrite action).programVisits isWrite rest := by
  rw [programVisits, begun, stages, List.zip_cons_cons, List.flatMap_cons]
  refine congrArg (s.actionVisits isWrite action ++ ·) ?_
  rcases (s.perform isWrite action).1 with (cause | _) | done <;> rfl

/-- A program is a fault exactly if it comes to a piece at fault. -/
theorem performAll_eq_crash_iff (isWrite : Bool) (program : List Action) (s : Session σ) :
    (s.performAll isWrite program).1 = .error .crash ↔
      ∃ visit ∈ s.programVisits isWrite program, visit.Fault := by
  induction program generalizing s with
  | nil => simp [performAll, programVisits, begun]
  | cons action rest ih =>
    have hfirst := perform_eq_crash_iff isWrite action s
    rw [programVisits_cons]
    simp only [List.mem_append, or_and_right, exists_or]
    rw [← hfirst]
    obtain ⟨hcrash, hwalk⟩ | ⟨hcalm, hwalk⟩ := performAll_cons isWrite action rest s
    · rw [hwalk]
      exact iff_of_true rfl (.inl hcrash)
    · rw [hwalk, ih]
      split
      · contradiction
      · exact (or_iff_right hcalm).symm

/-- A tick is a fault exactly if it comes to a piece at fault. -/
theorem tick_eq_crash_iff (isWrite : Bool) (s : Session σ) :
    (s.tick isWrite).1 = .error .crash ↔ ∃ visit ∈ s.tickVisits isWrite, visit.Fault := by
  unfold tickVisits
  obtain ⟨hsealed, henabled, hdue, htick⟩ | ⟨-, -, hdue, htick⟩ | ⟨hidle, -⟩ := tick_cases isWrite s
  · rw [if_pos ⟨hsealed, henabled, hdue⟩, htick]
    exact performAll_eq_crash_iff isWrite s.engine.program s.count
  · rw [htick, if_neg fun h ↦ by simp [hdue] at h]
    exact iff_of_false nofun (by simp)
  · rw [if_neg fun h ↦ by simp [h.1, h.2.1] at hidle]
    refine iff_of_false ?_ (by simp)
    unfold tick
    obtain hopen | hquiet := hidle
    · simp [hopen]
    · cases s.engine.isSealed <;> simp [hquiet]

/-- A tick on a complete program succeeds or is a fault. -/
theorem tick_of_isSealed {s : Session σ} (hsealed : s.engine.isSealed = true) (isWrite : Bool) :
    (s.tick isWrite).1 = .ok () ∨ (s.tick isWrite).1 = .error .crash := by
  obtain ⟨-, -, -, htick⟩ | ⟨-, -, -, htick⟩ | ⟨hidle, -⟩ := tick_cases isWrite s
  · rw [htick]
    obtain ⟨-, -, -, ⟨hresult, -⟩ | hcrash⟩ := performAll_walk isWrite s.engine.program s.count
    · exact .inl hresult
    · exact .inr hcrash
  · rw [htick]
    exact .inl rfl
  · have hquiet := hidle.resolve_left (by simp [hsealed])
    exact .inl (by simp [tick, hsealed, hquiet])

end Session

end ProgressActions
