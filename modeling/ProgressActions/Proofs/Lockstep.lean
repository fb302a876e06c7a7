import ProgressActions.Engine.Finish
import ProgressActions.Proofs.Performance

/-!
# Two runs side by side

An activity is run from two scenes that are related. It goes the same way in both if it comes to the
same outcome and leaves scenes that are related again. Which relations a rendering keeps is settled by
the few things that it does on its stream and asks of its host. It asks for totals only after it has
asked for the time, so hosts need to agree about totals just then.
-/

namespace ProgressActions

open Template

variable {σ α β : Type}

namespace Act

/-- Run from two scenes that are related, an activity has the same outcome and leaves scenes that are
related. -/
def Lockstep (before after : Scene σ → Scene σ → Prop) (activity : Act σ α) : Prop :=
  ∀ s t, before s t →
    (activity.run.run t).1 = (activity.run.run s).1 ∧
      after (activity.run.run s).2 (activity.run.run t).2

/-- What follows the question for totals: they are shown, or there are none. -/
def showTotals [Host σ] (stream : Stream) (labels : Labels) (separator : Char) : Act σ Nat := do
  match Host.totals (← get).host labels separator with
  | .ok text => emit stream text.toList
  | .error cause => fail cause

end Act

namespace Scene

/-- A relation between scenes that is kept by all that is done on a stream without asking a host. -/
structure Keeps (stream : Stream) (R : Scene σ → Scene σ → Prop) : Prop where
  write : ∀ text, Act.Lockstep R R (Act.write stream text)
  flush : Act.Lockstep R R (Act.flush stream)
  width : Act.Lockstep R R (Act.width stream)
  noteReturn : Act.Lockstep R R (modify ({ · with lineReset := true }))
  localTime?_eq : ∀ {s t}, R s t → t.world.localTime? = s.world.localTime?

/-- A relation between scenes that is kept by all that renders text on a stream, reports of errors
apart, and a closer one that holds from when the hosts have been asked for the time to the end of the
directive. -/
structure Concurs [Host σ] (stream : Stream) (near close : Scene σ → Scene σ → Prop) : Prop where
  keeps_near : Keeps stream near
  keeps_close : Keeps stream close
  near_of_close : ∀ {s t}, close s t → near s t
  localize_eq : ∀ {s t}, near s t → Host.localize t.host = Host.localize s.host
  totals_eq : ∀ {s t}, close s t → Host.totals t.host = Host.totals s.host
  elapsed : Act.Lockstep near close Act.elapsed
  record : ∀ event, Act.Lockstep close close (Act.record event)

/-- Two such relations that are kept by reports of errors too, and by the actions that show something. -/
structure Agrees [Host σ] (stream : Stream) (near close : Scene σ → Scene σ → Prop) : Prop
    extends Concurs stream near close where
  name_eq : ∀ {s t}, near s t → Host.name t.host = Host.name s.host
  report_eq : ∀ {s t}, close s t → Host.report t.host = Host.report s.host
  reportError : ∀ message, Act.Lockstep close close (Act.reportError message)

end Scene

namespace Act.Lockstep

variable {R S T : Scene σ → Scene σ → Prop} {first : Act σ α} {second : α → Act σ β}

theorem mono {activity : Act σ α} (h : Lockstep R S activity) (hST : ∀ {s t}, S s t → T s t) :
    Lockstep R T activity :=
  fun s t hst ↦ ⟨(h s t hst).1, hST (h s t hst).2⟩

theorem pure (a : α) : Lockstep R R (Pure.pure a : Act σ α) := fun _ _ hst ↦ ⟨rfl, hst⟩

theorem throw (cause : Interruption) : Lockstep R R (MonadExcept.throw cause : Act σ α) :=
  fun _ _ hst ↦ ⟨rfl, hst⟩

theorem bind (hfirst : Lockstep R S first) (hsecond : ∀ a, Lockstep S S (second a)) :
    Lockstep R S (first >>= second) := by
  intro s t hst
  obtain ⟨houtcome, hafter⟩ := hfirst s t hst
  rw [run_bind, run_bind]
  rcases hs : first.run.run s with ⟨cause | a, nextS⟩ <;>
    rcases ht : first.run.run t with ⟨other | b, nextT⟩ <;>
    rw [hs, ht] at houtcome hafter <;> cases houtcome
  · exact ⟨rfl, hafter⟩
  · exact hsecond _ nextS nextT hafter

/-- An activity that looks at its scene, but is the same in both. -/
theorem get_bind {second : Scene σ → Act σ β}
    (h : ∀ s t, R s t → second t = second s ∧ Lockstep R S (second s)) :
    Lockstep R S (MonadState.get >>= second) := by
  intro s t hst
  obtain ⟨hsame, hsecond⟩ := h s t hst
  rw [run_bind, run_bind, run_get, run_get]
  dsimp only
  rw [hsame]
  exact hsecond s t hst

/-! ## What needs no host -/

section

variable {stream : Stream} {job : Template.Job}

theorem emit (h : Scene.Keeps stream R) (text : List Char) :
    Lockstep R R (Act.emit stream text) :=
  bind (h.write text) fun _ ↦ pure _

theorem put (h : Scene.Keeps stream R) (text : List Char) : Lockstep R R (Act.put stream text) :=
  bind (h.write text) fun _ ↦ h.flush

theorem clearLine (h : Scene.Keeps .terminal R) : Lockstep R R (Act.clearLine (σ := σ)) := by
  refine bind h.width fun columns ↦ ?_
  dsimp only
  split
  · exact bind (throw _) fun _ ↦ put h _
  · exact put h _

theorem renderLiteral (h : Scene.Keeps job.stream R) (c : Char) (column : Nat) :
    Lockstep R R (renderLiteral job c column) := by
  unfold Template.renderLiteral
  refine bind (h.write _) fun _ ↦ ?_
  split
  · exact bind h.noteReturn fun _ ↦ pure _
  · exact pure _

theorem renderUnknown (h : Scene.Keeps job.stream R) (letter : Char) (column : Nat) :
    Lockstep R R (renderUnknown job letter column) :=
  bind (h.write _) fun _ ↦ pure _

theorem renderDangling (h : Scene.Keeps job.stream R) (argument : Option Argument) (column : Nat) :
    Lockstep R R (renderDangling job argument column) := by
  refine bind (h.write _) fun _ ↦ ?_
  cases argument with
  | none => exact pure _
  | some a => exact bind (h.write _) fun _ ↦ pure _

theorem renderPadding (h : Scene.Keeps job.stream R) (argument : Option Argument) (column : Nat) :
    Lockstep R R (renderPadding job argument column) := by
  have hpad : ∀ target : Nat, Lockstep R R (do
      let padding := target - column
      if maxPadding < padding then MonadExcept.throw .crash
      Act.write job.stream (List.replicate padding ' ')
      Pure.pure (column + padding) : Act σ Nat) := by
    intro target
    dsimp only
    split
    · exact bind (throw _) fun _ ↦ bind (h.write _) fun _ ↦ pure _
    · exact bind (h.write _) fun _ ↦ pure _
  unfold Template.renderPadding
  cases argument.bind (Text.word? ·.value) with
  | some n => exact bind (pure n) hpad
  | none => exact bind h.width hpad

theorem renderTime (h : Scene.Keeps job.stream R) (argument : Option Argument) (column : Nat) :
    Lockstep R R (renderTime job argument column) := by
  refine get_bind fun s t hst ↦ ⟨by rw [h.localTime?_eq hst], ?_⟩
  split
  · exact bind (emit h _) fun _ ↦ pure _
  · exact throw _

end

/-! ## Asking the host -/

section

variable [Host σ] {stream : Stream} {near close : Scene σ → Scene σ → Prop}

theorem localized (h : Scene.Concurs stream near close) (message : String) :
    Lockstep near near (Act.localized (σ := σ) message) := by
  intro s t hst
  rw [run_localized, run_localized, h.localize_eq hst]
  exact ⟨rfl, hst⟩

/-- The totals are asked for and written the same way on both sides. -/
theorem showTotals (h : Scene.Concurs stream near close) (labels : Labels) (separator : Char) :
    Lockstep close close (Act.showTotals (σ := σ) stream labels separator) := by
  refine get_bind fun s t hst ↦ ⟨by rw [h.totals_eq hst], ?_⟩
  split
  · exact emit h.keeps_close _
  · exact throw _

theorem totals (h : Scene.Concurs stream near close) (labels : Labels) (separator : Char) :
    Lockstep close close (Act.totals (σ := σ) stream labels separator) :=
  bind (h.record _) fun _ ↦ showTotals h labels separator

theorem totalsLabels {argument : Option Argument}
    (hreports : ∀ message, (Piece.directive 'T' argument).complaint? = some message →
      Lockstep close close (Act.reportError (σ := σ) message)) :
    Lockstep close close (totalsLabels (σ := σ) argument) := by
  unfold Template.totalsLabels
  cases argument with
  | none => exact pure _
  | some a =>
    dsimp only
    cases hsplit : splitLabels a.value with
    | ok words => exact pure _
    | error e =>
      have hcomplaint : (Piece.directive 'T' (some a)).complaint? = some e.message := by
        simp only [Piece.complaint?, hsplit]
      exact bind (hreports _ hcomplaint) fun _ ↦ pure _

theorem freshTotals (h : Scene.Agrees .stderr near close) :
    Lockstep near close (Act.freshTotals (σ := σ)) := by
  refine bind h.elapsed fun _ ↦ bind (h.record _) fun _ ↦ get_bind fun s t hst ↦
    ⟨by rw [h.report_eq hst], ?_⟩
  split
  · exact h.keeps_close.write _
  · exact throw _

/-! ## Renderings -/

variable {job : Template.Job} {status : Nat → Act σ Nat}

theorem renderDirective (h : Scene.Concurs job.stream near close)
    (hstatus : ∀ column, Lockstep near near (status column)) {letter : Char}
    {argument : Option Argument}
    (hreports : ∀ message, (Piece.directive letter argument).complaint? = some message →
      Lockstep close close (Act.reportError (σ := σ) message)) (column : Nat) :
    Lockstep near near (renderDirective job status letter argument column) := by
  unfold Template.renderDirective
  split
  · exact hstatus column
  · exact bind (emit h.keeps_near _) fun _ ↦ pure _
  · exact bind (localized h _) fun _ ↦ bind (emit h.keeps_near _) fun _ ↦ pure _
  · exact mono (bind h.elapsed fun _ ↦ bind (emit h.keeps_close _) fun _ ↦ pure _) h.near_of_close
  · refine mono (bind h.elapsed fun _ ↦ bind (totalsLabels hreports) fun labels ↦ ?_)
      h.near_of_close
    exact bind (totals h labels ',') fun _ ↦ pure _
  · exact renderTime h.keeps_near argument column
  · exact renderPadding h.keeps_near argument column
  · exact renderUnknown h.keeps_near _ column

/-- Only the errors that a piece is reported for need to be reported in step. -/
theorem renderPiece (h : Scene.Concurs job.stream near close)
    (hstatus : ∀ column, Lockstep near near (status column)) {piece : Piece}
    (hreports : ∀ message, piece.complaint? = some message →
      Lockstep close close (Act.reportError (σ := σ) message)) (column : Nat) :
    Lockstep near near (renderPiece job status piece column) := by
  cases piece with
  | literal c => exact renderLiteral h.keeps_near c column
  | unclosed => exact bind (h.keeps_near.write _) fun _ ↦ pure _
  | directive letter argument => exact renderDirective h hstatus hreports column
  | dangling argument => exact renderDangling h.keeps_near argument column

theorem renderPieces (h : Scene.Agrees job.stream near close)
    (hstatus : ∀ column, Lockstep near near (status column)) (row : List Piece) (column : Nat) :
    Lockstep near near (renderPieces job status row column) := by
  induction row generalizing column with
  | nil => exact pure column
  | cons piece rest ih =>
    exact bind (renderPiece h.toConcurs hstatus (fun message _ ↦ h.reportError message) column) ih

theorem render (h : Scene.Agrees job.stream near close) (template : List Char) (column : Nat) :
    Lockstep near near (render (σ := σ) job template column) :=
  bind (renderPieces h (renderPieces h (renderUnknown h.keeps_near 'c') _) _ column) fun _ ↦
    bind h.keeps_near.flush fun _ ↦ pure _

theorem echo (h : Scene.Agrees stream near close) (isWrite : Bool) (checkpoint : Nat)
    (template : Option String) :
    Lockstep near near (Act.echo (σ := σ) stream isWrite checkpoint template) := by
  refine get_bind fun s t hst ↦ ⟨by rw [h.name_eq hst], bind (h.keeps_near.write _) fun _ ↦ ?_⟩
  cases template with
  | some text => exact bind (pure _) fun _ ↦ bind (render h _ _) fun _ ↦ put h.keeps_near _
  | none => exact bind (localized h.toConcurs _) fun _ ↦ bind (render h _ _) fun _ ↦ put h.keeps_near _

theorem ttyText (h : Scene.Agrees .terminal near close) (isWrite : Bool) (checkpoint : Nat)
    (template : String) :
    Lockstep near near (Act.ttyText (σ := σ) isWrite checkpoint template) :=
  bind (render h _ _) fun _ ↦ pure _

end

end Act.Lockstep

end ProgressActions
