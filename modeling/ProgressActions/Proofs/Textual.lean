import ProgressActions.Template.Render

/-!
# What a text is rendered by

However a template is put together, its text is rendered by few elementary activities: writes to one
stream, looks at the scene, the questions for the time and for totals, reports of errors, and the notes
that are taken of carriage returns. What is shown of each of them, and kept when one follows another,
holds of every rendering. A flush is none of them: it comes after the text.
-/

namespace ProgressActions

open Template

variable {σ : Type}

/-- Two scenes that look the same to a rendering on a stream: its host, the local time and the width of
the window are all that it can see. -/
structure Scene.SameView (stream : Stream) (s t : Scene σ) : Prop where
  host : t.host = s.host
  localTime? : t.world.localTime? = s.world.localTime?
  window : resolveWidth (t.world.sinks.get stream).width t.world.columns =
    resolveWidth (s.world.sinks.get stream).width s.world.columns

namespace Act

variable [Host σ]

/-- An activity made of what text is rendered by. It is told apart whether it may take note of a
carriage return, and which errors it may report. -/
inductive Textual (stream : Stream) (returns : Prop) (reports : String → Prop) :
    {α : Type} → Act σ α → Prop where
  | pure {α : Type} (a : α) : Textual stream returns reports (Pure.pure a)
  | crash {α : Type} : Textual stream returns reports (throw .crash : Act σ α)
  | bind {α β : Type} {first : Act σ α} {second : α → Act σ β} :
      Textual stream returns reports first → (∀ a, Textual stream returns reports (second a)) →
      Textual stream returns reports (first >>= second)
  /-- What is done after a look at the scene depends on what can be seen there. -/
  | look {α : Type} {next : Scene σ → Act σ α} :
      (∀ s t, s.SameView stream t → next t = next s) →
      (∀ s, Textual stream returns reports (next s)) →
      Textual stream returns reports (get >>= next)
  | write (text : List Char) : Textual stream returns reports (Act.write stream text)
  | noteReturn : returns → Textual stream returns reports (modify ({ · with lineReset := true }))
  | elapsed : Textual stream returns reports Act.elapsed
  | totals (labels : Labels) (separator : Char) :
      Textual stream returns reports (Act.totals stream labels separator)
  | reportError {message : String} : reports message →
      Textual stream returns reports (Act.reportError message)

end Act

/-! ## Complaints -/

namespace Template

/-- The error that a piece is reported for: labels of totals that cannot be split. -/
def Piece.complaint? : Piece → Option String
  | .directive 'T' (some a) =>
    match splitLabels a.value with
    | .ok _ => none
    | .error e => some e.message
  | _ => none

/-- The errors that the pieces of a template are reported for. -/
def complaints (template : List Char) : List String := (pieces template).filterMap Piece.complaint?

/-- The built-in status line gives no cause for complaint. -/
theorem complaints_statusTemplate : complaints statusTemplate = [] := by decide +kernel

end Template

/-! ## Renderings -/

namespace Act.Textual

variable [Host σ] {stream : Stream} {returns : Prop} {reports : String → Prop}

theorem emit (text : List Char) : Textual stream returns reports (Act.emit (σ := σ) stream text) :=
  bind (write text) fun _ ↦ pure _

theorem width : Textual stream returns reports (Act.width (σ := σ) stream) :=
  look (fun _ _ h ↦ congrArg Pure.pure h.window) fun _ ↦ pure _

theorem localized (message : String) :
    Textual stream returns reports (Act.localized (σ := σ) message) :=
  look (fun _ _ h ↦ by rw [h.host]) fun _ ↦ pure _

variable {job : Template.Job} {status : Nat → Act σ Nat}

theorem renderLiteral {c : Char} (hreturns : c = '\r' → returns) (column : Nat) :
    Textual job.stream returns reports (renderLiteral (σ := σ) job c column) := by
  unfold Template.renderLiteral
  refine bind (write _) fun _ ↦ ?_
  split
  · rename_i hreturn
    exact bind (noteReturn (hreturns hreturn)) fun _ ↦ pure _
  · exact pure _

theorem renderUnknown (letter : Char) (column : Nat) :
    Textual job.stream returns reports (renderUnknown (σ := σ) job letter column) :=
  bind (write _) fun _ ↦ pure _

theorem renderDangling (argument : Option Argument) (column : Nat) :
    Textual job.stream returns reports (renderDangling (σ := σ) job argument column) := by
  refine bind (write _) fun _ ↦ ?_
  cases argument with
  | none => exact pure _
  | some a => exact bind (write _) fun _ ↦ pure _

theorem renderPadding (argument : Option Argument) (column : Nat) :
    Textual job.stream returns reports (renderPadding (σ := σ) job argument column) := by
  have hpad : ∀ target : Nat, Textual job.stream returns reports (do
      let padding := target - column
      if maxPadding < padding then throw .crash
      Act.write job.stream (List.replicate padding ' ')
      Pure.pure (column + padding) : Act σ Nat) := by
    intro target
    dsimp only
    split
    · exact bind crash fun _ ↦ bind (write _) fun _ ↦ pure _
    · exact bind (write _) fun _ ↦ pure _
  unfold Template.renderPadding
  cases argument.bind (Text.word? ·.value) with
  | some n => exact bind (pure n) hpad
  | none => exact bind width hpad

theorem renderTime (argument : Option Argument) (column : Nat) :
    Textual job.stream returns reports (renderTime (σ := σ) job argument column) := by
  refine look (fun _ _ h ↦ by rw [h.localTime?]) fun s ↦ ?_
  split
  · exact bind (emit _) fun _ ↦ pure _
  · exact crash

theorem totalsLabels {argument : Option Argument}
    (hreports : ∀ message, (Piece.directive 'T' argument).complaint? = some message →
      reports message) :
    Textual stream returns reports (totalsLabels (σ := σ) argument) := by
  unfold Template.totalsLabels
  cases argument with
  | none => exact pure _
  | some a =>
    dsimp only
    cases hsplit : splitLabels a.value with
    | ok words => exact pure _
    | error e =>
      have hcomplaint : (Piece.directive 'T' (some a)).complaint? = some e.message := by
        simp only [Piece.complaint?, hsplit]
      exact bind (reportError (hreports _ hcomplaint)) fun _ ↦ pure _

theorem renderDirective (hstatus : ∀ column, Textual job.stream returns reports (status column))
    {letter : Char} {argument : Option Argument}
    (hreports : ∀ message, (Piece.directive letter argument).complaint? = some message →
      reports message) (column : Nat) :
    Textual job.stream returns reports (renderDirective job status letter argument column) := by
  unfold Template.renderDirective
  split
  · exact hstatus column
  · exact bind (emit _) fun _ ↦ pure _
  · exact bind (localized _) fun _ ↦ bind (emit _) fun _ ↦ pure _
  · exact bind elapsed fun _ ↦ bind (emit _) fun _ ↦ pure _
  · exact bind elapsed fun _ ↦ bind (totalsLabels hreports) fun labels ↦
      bind (totals labels ',') fun _ ↦ pure _
  · exact renderTime argument column
  · exact renderPadding argument column
  · exact renderUnknown _ column

/-- Only a literal carriage return is taken note of. -/
theorem renderPiece {piece : Piece} (hreturns : piece = .literal '\r' → returns)
    (hstatus : ∀ column, Textual job.stream returns reports (status column))
    (hreports : ∀ message, piece.complaint? = some message → reports message) (column : Nat) :
    Textual job.stream returns reports (renderPiece job status piece column) := by
  cases piece with
  | literal c => exact renderLiteral (fun hreturn ↦ hreturns (congrArg Piece.literal hreturn)) column
  | unclosed => exact bind (write _) fun _ ↦ pure _
  | directive letter argument => exact renderDirective hstatus hreports column
  | dangling argument => exact renderDangling argument column

theorem renderPieces (hreturns : returns)
    (hstatus : ∀ column, Textual job.stream returns reports (status column)) {row : List Piece}
    (hreports : ∀ message ∈ row.filterMap Piece.complaint?, reports message) (column : Nat) :
    Textual job.stream returns reports (renderPieces job status row column) := by
  induction row generalizing column with
  | nil => exact pure column
  | cons piece rest ih =>
    refine bind (renderPiece (fun _ ↦ hreturns) hstatus (fun message h ↦ ?_) column)
      (ih fun message h ↦ ?_)
    · exact hreports message (List.mem_filterMap.2 ⟨piece, List.mem_cons_self, h⟩)
    · obtain ⟨other, hother, hcomplaint⟩ := List.mem_filterMap.1 h
      exact hreports message (List.mem_filterMap.2 ⟨other, List.mem_cons_of_mem _ hother, hcomplaint⟩)

theorem renderStatus (hreturns : returns) (column : Nat) :
    Textual job.stream returns reports (renderStatus (σ := σ) job column) := by
  refine renderPieces hreturns (renderUnknown 'c') (fun message h ↦ ?_) column
  have hnone : message ∈ complaints statusTemplate := h
  rw [complaints_statusTemplate] at hnone
  cases hnone

/-- The text of a template reports just the errors that the template gives cause for. -/
theorem renderText (hreturns : returns) {template : List Char}
    (hreports : ∀ message ∈ complaints template, reports message) (column : Nat) :
    Textual job.stream returns reports (renderText (σ := σ) job template column) :=
  renderPieces hreturns (renderStatus hreturns) hreports column

end Act.Textual

end ProgressActions
