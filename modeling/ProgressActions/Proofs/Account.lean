import ProgressActions.Proofs.Performance

/-!
# The account of a rendering

What a rendering stores on its stream is accounted for piece by piece, up to the piece that fails if
there is one. The status directive stands for the pieces of the built-in status line. The account is
complete, and it tells when a rendering takes note of a carriage return: exactly when a literal one
is stored.
-/

namespace ProgressActions

open Template

/-- The bytes that have been stored on a stream. -/
def World.contents (w : World) (stream : Stream) : List UInt8 := Event.contents stream w.events

namespace World

theorem contents_record (w : World) (event : Event) (stream : Stream) :
    (w.record event).contents stream = w.contents stream ++ event.contentOn stream := by
  simp only [contents, events_record, Event.contents_append]
  simp [Event.contents]

/-- A sink keeps of a write what it has room for. -/
theorem contents_write (w : World) (stream : Stream) (content : List UInt8) :
    (w.write stream content).2.contents stream =
      w.contents stream ++ (w.sinks.get stream).stored content := by
  unfold write
  dsimp only
  split
  · rename_i hnone
    rw [hnone, List.append_nil]
    rfl
  · rw [contents_record]
    simp only [Event.contentOn, if_true]
    rfl

theorem contents_write_of_ne {stream other : Stream} (h : stream ≠ other) (w : World)
    (content : List UInt8) : (w.write stream content).2.contents other = w.contents other := by
  unfold write
  dsimp only
  split
  · rfl
  · rw [contents_record]
    simp only [Event.contentOn, if_neg h, List.append_nil]
    rfl

/-- What a host logs about an error is left beside every stream but the standard error. -/
theorem contents_noted {stream : Stream} (h : stream ≠ .stderr) (line : Option String) (w : World) :
    (Act.noted line w).contents stream = w.contents stream := by
  cases line with
  | none => rfl
  | some text => exact contents_write_of_ne h.symm w _

theorem contents_prefix_write (w : World) (stream other : Stream) (content : List UInt8) :
    w.contents other <+: (w.write stream content).2.contents other := by
  by_cases h : stream = other
  · rw [← h, contents_write]
    exact List.prefix_append _ _
  · simpa only [contents_write_of_ne h] using List.prefix_refl (w.contents other)

end World

/-- What a rendering has stored stays stored. -/
theorem Scene.admits_contents {σ : Type} [Host σ] (stream other : Stream) :
    Scene.Admits stream fun s t : Scene σ ↦
      s.world.contents other <+: t.world.contents other where
  refl _ := List.prefix_refl _
  trans hst htu := hst.trans htu
  write s content := s.world.contents_prefix_write stream other content
  flush s := by
    rw [World.flush, World.contents_record]
    exact List.prefix_append _ _
  record s event _ := by
    rw [World.contents_record]
    exact List.prefix_append _ _
  log s message := s.world.contents_prefix_write .stderr other _
  measure _ := List.prefix_refl _
  noteError _ _ := List.prefix_refl _

namespace Template

/-! ## Inlined status lines -/

/-- The pieces of a template with those of the built-in status line for each status directive. -/
def inlined (row : List Piece) : List Piece :=
  row.flatMap fun
    | .directive 'c' _ => pieces statusTemplate
    | piece => [piece]

/-- The status directive stands for the pieces of its line. -/
theorem inlined_cons_status (argument : Option Argument) (rest : List Piece) :
    inlined (.directive 'c' argument :: rest) = pieces statusTemplate ++ inlined rest := rfl

/-- Every piece but a status directive stands for itself. -/
theorem inlined_cons_of_ne {piece : Piece} (h : ∀ argument, piece ≠ .directive 'c' argument)
    (rest : List Piece) : inlined (piece :: rest) = piece :: inlined rest := by
  unfold inlined
  rw [List.flatMap_cons]
  split
  · exact absurd rfl (h _)
  · rfl

theorem Piece.isStatus_or_not (piece : Piece) :
    (∃ argument, piece = .directive 'c' argument) ∨ ∀ argument, piece ≠ .directive 'c' argument :=
  (Classical.em _).imp_right not_exists.1

variable {σ : Type} [Host σ]

/-- Only a status directive depends on what it does. -/
theorem renderPiece_congr (job : Job) (first second : Nat → Act σ Nat) {piece : Piece}
    (h : ∀ argument, piece ≠ .directive 'c' argument) (column : Nat) :
    renderPiece job first piece column = renderPiece job second piece column := by
  cases piece with
  | directive letter argument =>
    have hletter : letter ≠ 'c' := fun hc ↦ h argument (by rw [hc])
    change renderDirective job first letter argument column =
      renderDirective job second letter argument column
    unfold renderDirective
    split <;> first | rfl | exact absurd rfl hletter
  | _ => rfl

/-- A template is rendered as its pieces are with all status lines inlined. -/
theorem renderPieces_inlined (job : Job) (row : List Piece) (column : Nat) :
    renderPieces job (renderStatus (σ := σ) job) row column =
      renderPieces job (renderUnknown job 'c') (inlined row) column := by
  induction row generalizing column with
  | nil => rfl
  | cons piece rest ih =>
    obtain ⟨argument, rfl⟩ | hplain := piece.isStatus_or_not
    · rw [inlined_cons_status, renderPieces_append, renderPieces]
      exact congrArg (renderStatus job column >>= ·) (funext ih)
    · rw [inlined_cons_of_ne hplain, renderPieces, renderPieces,
        renderPiece_congr job (renderStatus job) (renderUnknown job 'c') hplain]
      exact congrArg (renderPiece job (renderUnknown job 'c') piece column >>= ·) (funext ih)

/-! ## The account -/

/-- A piece of a template, and the bytes that were stored while it was rendered. -/
structure Entry where
  piece : Piece
  stored : List UInt8
  deriving DecidableEq, Repr

def returnByte : UInt8 := 13

/-- Whether a literal carriage return was stored. -/
def Entry.isReturn (e : Entry) : Bool :=
  e.piece == .literal '\r' && e.stored.contains returnByte

/-- What one scene has stored on a stream beyond another. -/
def gained (stream : Stream) (before after : Scene σ) : List UInt8 :=
  (after.world.contents stream).drop (before.world.contents stream).length

/-- The account of a row of pieces that is rendered from a column and a scene on. -/
def account (job : Job) : List Piece → (column : Nat) → Scene σ → List Entry
  | [], _, _ => []
  | piece :: rest, column, s =>
    let (outcome, next) := (renderPiece job (renderUnknown job 'c') piece column).run.run s
    ⟨piece, gained job.stream s next⟩ ::
      match outcome with
      | .ok last => account job rest last next
      | .error _ => []

/-- What a piece stores on the stream is added to what stands there. -/
theorem contents_eq_append_gained (job : Job) (piece : Piece) (column : Nat) (s : Scene σ) :
    let next := ((renderPiece job (renderUnknown job 'c') piece column).run.run s).2
    next.world.contents job.stream =
      s.world.contents job.stream ++ gained job.stream s next := by
  intro next
  have hadmits := Scene.admits_contents (σ := σ) job.stream job.stream
  have hprefix : s.world.contents job.stream <+: next.world.contents job.stream :=
    Act.Within.renderPiece hadmits (fun _ _ ↦ List.prefix_refl _) column s
  exact (List.prefix_iff_eq_append.1 hprefix).symm

/-- The account of a rendering is complete. -/
theorem contents_renderPieces (job : Job) (row : List Piece) (column : Nat) (s : Scene σ) :
    ((renderPieces job (renderUnknown job 'c') row column).run.run s).2.world.contents job.stream =
      s.world.contents job.stream ++ (account job row column s).flatMap Entry.stored := by
  induction row generalizing column s with
  | nil => exact (List.append_nil _).symm
  | cons piece rest ih =>
    have hfirst := contents_eq_append_gained job piece column s
    rw [renderPieces, Act.run_bind, account]
    rcases hrun : (renderPiece job (renderUnknown job 'c') piece column).run.run s
      with ⟨cause | last, next⟩
    · rw [hrun] at hfirst
      simpa using hfirst
    · rw [hrun] at hfirst
      dsimp only at hfirst ⊢
      rw [ih, hfirst, List.flatMap_cons, List.append_assoc]

/-! ## Carriage returns -/

omit [Host σ] in
/-- A carriage return is noted only if the sink has room for it. -/
theorem run_renderLiteral_return (job : Job) (column : Nat) (s : Scene σ) :
    ((renderLiteral job '\r' column).run.run s).2 =
      { s with
        world := (s.world.write job.stream [returnByte]).2
        lineReset := s.lineReset || (s.world.write job.stream [returnByte]).1 } := by
  have hbytes : Text.bytes ['\r'] = [returnByte] := by decide
  unfold renderLiteral
  rw [Act.run_bind, Act.run_write, hbytes]
  cases (s.world.write job.stream [returnByte]).1 with
  | false => simp
  | true =>
    simp only [if_true, Bool.or_true]
    rfl

/-- A single byte is stored if and only if it fits. -/
theorem contains_stored (sink : Sink) (b : UInt8) :
    (sink.stored [b]).contains b = sink.fits [b] := by
  unfold Sink.stored Sink.fits
  cases sink.room with
  | none => simp
  | some n => cases n <;> simp

/-- A piece takes note of a carriage return exactly when it is a literal one that is stored. -/
theorem lineReset_renderPiece (job : Job) (piece : Piece) (column : Nat) (s : Scene σ) :
    let next := ((renderPiece job (renderUnknown job 'c') piece column).run.run s).2
    next.lineReset = (s.lineReset || Entry.isReturn ⟨piece, gained job.stream s next⟩) := by
  intro next
  by_cases hreturn : piece = .literal '\r'
  · have hnext : next = ((renderLiteral job '\r' column).run.run s).2 := by
      simp only [next, hreturn]
      rfl
    have hgained : gained job.stream s next =
        (s.world.sinks.get job.stream).stored [returnByte] := by
      rw [hnext, run_renderLiteral_return, gained, World.contents_write, List.drop_left]
    rw [hgained, hreturn, Entry.isReturn, contains_stored, hnext, run_renderLiteral_return]
    rfl
  · have hkept : next.lineReset = s.lineReset :=
      Act.Within.renderPiece (Scene.admits_lineReset job.stream) (fun h ↦ absurd h hreturn) column s
    simp [hkept, Entry.isReturn, hreturn]

/-- A rendering takes note of a carriage return exactly when a literal one is stored. -/
theorem lineReset_renderPieces (job : Job) (row : List Piece) (column : Nat) (s : Scene σ) :
    ((renderPieces job (renderUnknown job 'c') row column).run.run s).2.lineReset =
      (s.lineReset || (account job row column s).any Entry.isReturn) := by
  induction row generalizing column s with
  | nil => exact (Bool.or_false _).symm
  | cons piece rest ih =>
    have hfirst := lineReset_renderPiece job piece column s
    rw [renderPieces, Act.run_bind, account]
    rcases hrun : (renderPiece job (renderUnknown job 'c') piece column).run.run s
      with ⟨cause | last, next⟩
    · rw [hrun] at hfirst
      simpa using hfirst
    · rw [hrun] at hfirst
      dsimp only at hfirst ⊢
      rw [ih, hfirst, List.any_cons, Bool.or_assoc]

def accountText (job : Job) (template : List Char) (column : Nat) (s : Scene σ) : List Entry :=
  account job (inlined (pieces template)) column s

/-- Flushing adds nothing to the account of a template. -/
theorem run_render (job : Job) (template : List Char) (column : Nat) (s : Scene σ) :
    let last := ((render job template column).run.run s).2
    last.world.contents job.stream =
        s.world.contents job.stream ++ (accountText job template column s).flatMap Entry.stored ∧
      last.lineReset = (s.lineReset || (accountText job template column s).any Entry.isReturn) := by
  intro last
  have hcontents := contents_renderPieces job (inlined (pieces template)) column s
  have hreset := lineReset_renderPieces job (inlined (pieces template)) column s
  have hlast : last = ((render job template column).run.run s).2 := rfl
  unfold render renderText at hlast
  rw [renderPieces_inlined, Act.run_bind] at hlast
  rcases hrun : (renderPieces job (renderUnknown job 'c') (inlined (pieces template)) column).run.run s
    with ⟨cause | column, next⟩
  · rw [hrun] at hcontents hreset hlast
    rw [hlast]
    exact ⟨hcontents, hreset⟩
  · rw [hrun] at hcontents hreset hlast
    dsimp only at hlast
    rw [Act.run_bind, Act.run_flush] at hlast
    have hflushed : last = { next with world := (next.world.flush job.stream).2 } := by
      rw [hlast]
      cases (next.world.flush job.stream).1 <;> rfl
    have hadded : (next.world.flush job.stream).2.contents job.stream =
        next.world.contents job.stream := by
      rw [World.flush, World.contents_record]
      exact List.append_nil _
    rw [hflushed]
    exact ⟨hadded.trans hcontents, hreset⟩

end Template

end ProgressActions
