import ProgressActions.Host.Scripted
import ProgressActions.Proofs.Account
import ProgressActions.Proofs.Moves

/-!
# Templates end to end

The scan of a template looks ahead: for the brace that closes an argument, and for the letter of a
directive. A template is complete if its own characters answer every such search. Its pieces then
stay what they are whatever is written behind it, so that two renderings one after the other are the
rendering of both templates in one, and the status directive is the text of the built-in line.
-/

namespace ProgressActions

open Template

namespace Template

/-! ## Complete templates -/

/-- Whether a piece is settled by its own characters: a brace is closed and a letter is there. -/
def Piece.isWhole : Piece → Bool
  | literal _ => true
  | unclosed => false
  | directive _ _ => true
  | dangling _ => false

/-- Whether a template closes every brace that its scan reaches, and does not end where the letter
of a directive is expected. -/
def isComplete (template : List Char) : Bool := (pieces template).all Piece.isWhole

/-- A brace that closes an argument is found whatever stands behind it. -/
theorem Argument.capture?_append {text after : List Char} {a : Argument}
    (h : capture? text = some (a, after)) (more : List Char) :
    capture? (text ++ more) = some (a, after ++ more) := by
  fun_induction capture? text generalizing a after with
  | case1 => cases h
  | case2 rest =>
    cases h
    exact capture?_close _
  | case3 c rest ih =>
    obtain ⟨⟨inner, tail⟩, hinner, heq⟩ := Option.map_eq_some_iff.1 h
    cases heq
    simp only [List.cons_append, capture?, ih hinner, Option.map_some]
  | case4 c rest hclose hescape ih =>
    obtain ⟨⟨inner, tail⟩, hinner, heq⟩ := Option.map_eq_some_iff.1 h
    cases heq
    -- The brace is still to come, so a backslash here would have been an escape.
    have hrest : rest ≠ [] := by
      rintro rfl
      cases hinner
    obtain ⟨d, others, rfl⟩ := List.exists_cons_of_ne_nil hrest
    have hplain : c ≠ '\\' := fun hc ↦ hescape d others hc rfl
    rw [List.cons_append, capture?]
    · rw [ih hinner, Option.map_some]
    · exact hclose
    · exact fun e tail hc _ ↦ hplain hc

/-- What stands behind a complete template does not change its pieces. -/
theorem pieces_append {first : List Char} (h : isComplete first = true) (second : List Char) :
    pieces (first ++ second) = pieces first ++ pieces second := by
  unfold isComplete at h
  -- Along the scan of `first`: it never looks beyond a whole piece, and the others are ruled out.
  fun_induction pieces first with
  | case1 => rfl
  | case2 rest hcapture ih => simp [Piece.isWhole] at h
  | case3 rest a hcapture => simp [Piece.isWhole] at h
  | case4 rest a letter after hcapture hlength ih =>
    have hcaptured : Argument.capture? (rest ++ second) = some (a, letter :: (after ++ second)) :=
      Argument.capture?_append hcapture second
    have hafter : (pieces after).all Piece.isWhole = true := by simpa [Piece.isWhole] using h
    rw [List.cons_append, List.cons_append, pieces_argument hcaptured, ih hafter, List.cons_append]
  | case5 => simp [Piece.isWhole] at h
  | case6 letter rest hbrace ih =>
    have hrest : (pieces rest).all Piece.isWhole = true := by simpa [Piece.isWhole] using h
    rw [List.cons_append, List.cons_append, pieces_directive (by simpa using hbrace), ih hrest,
      List.cons_append]
  | case7 c rest hbrace hend hletter ih =>
    have hrest : (pieces rest).all Piece.isWhole = true := by simpa [Piece.isWhole] using h
    have hliteral : c ≠ '%' := by
      intro hc
      cases rest with
      | nil => exact hend hc rfl
      | cons letter tail => exact hletter letter tail hc rfl
    rw [List.cons_append, pieces_literal hliteral, ih hrest, List.cons_append]

/-- A percent sign at the end takes its letter from the next template. -/
example : pieces ("50%".toList ++ "u".toList) ≠ pieces "50%".toList ++ pieces "u".toList := by
  decide +kernel

/-- Two complete templates in a row are a complete template. -/
theorem isComplete_append {first second : List Char} (hfirst : isComplete first = true)
    (hsecond : isComplete second = true) : isComplete (first ++ second) = true := by
  unfold isComplete at *
  rw [pieces_append hfirst, List.all_append, hfirst, hsecond, Bool.true_and]

/-- The built-in status line is complete. -/
theorem isComplete_statusTemplate : isComplete statusTemplate = true := by decide +kernel

/-- The built-in status line holds no status directive. -/
theorem inlined_statusTemplate : inlined (pieces statusTemplate) = pieces statusTemplate := by
  decide +kernel

theorem inlined_append (first second : List Piece) :
    inlined (first ++ second) = inlined first ++ inlined second :=
  List.flatMap_append

/-- A status directive behind a complete template is the text of the built-in status line. -/
theorem inlined_status {first second : List Char} (h : isComplete first = true)
    {argument : Option Argument} {rest : List Char}
    (hsecond : pieces second = .directive 'c' argument :: pieces rest) :
    inlined (pieces (first ++ second)) = inlined (pieces (first ++ statusTemplate ++ rest)) := by
  have hline := isComplete_append h isComplete_statusTemplate
  calc inlined (pieces (first ++ second))
      = inlined (pieces first) ++ inlined (.directive 'c' argument :: pieces rest) := by
        rw [pieces_append h, inlined_append, hsecond]
    _ = inlined (pieces first) ++ (pieces statusTemplate ++ inlined (pieces rest)) := rfl
    _ = inlined (pieces (first ++ statusTemplate ++ rest)) := by
        rw [pieces_append hline, pieces_append h, inlined_append, inlined_append,
          inlined_statusTemplate, List.append_assoc]

/-! ## Renderings in a row -/

section

variable {σ : Type} [Host σ]

/-- Templates with the same pieces, status lines inlined, are rendered alike. -/
theorem render_congr {first second : List Char}
    (h : inlined (pieces first) = inlined (pieces second)) (job : Job) (column : Nat) :
    render (σ := σ) job first column = render job second column := by
  unfold render renderText
  rw [renderPieces_inlined, renderPieces_inlined, h]

/-- Two texts in a row are rendered one after the other, from the column that the first one ends on. -/
theorem renderText_append {first : List Char} (h : isComplete first = true) (job : Job)
    (second : List Char) (column : Nat) :
    renderText (σ := σ) job (first ++ second) column =
      (renderText job first column >>= renderText job second) := by
  unfold renderText
  rw [pieces_append h, renderPieces_append]

end

end Template

/-! ## Flushes on the way -/

/-- A scene that is like another but for one more flush of a stream on the way. -/
structure Scene.FlushedOnceMore {σ : Type} (stream : Stream) (s t : Scene σ) : Prop where
  events : ∃ early late, s.world.events = early ++ late ∧
    t.world.events = early ++ .flush stream :: late
  world : t.world.forget = s.world.forget
  host : t.host = s.host
  lineReset : t.lineReset = s.lineReset

namespace Scene

variable {σ : Type}

theorem flushedOnceMore_preceded (stream : Stream) (early : Array Event) (s : Scene σ) :
    (s.preceded early).FlushedOnceMore stream (s.preceded (early.push (.flush stream))) where
  events := ⟨early.toList, s.world.events, World.events_preceded early s.world, by simp [preceded]⟩
  world := rfl
  host := rfl
  lineReset := rfl

end Scene

namespace Template

variable {σ : Type} [Host σ]

/-- A flush ahead of a rendering is only another event. -/
theorem render_flushed (job : Job) (template : List Char) (column : Nat) (s : Scene σ) :
    let plain := (render job template column).run.run s
    let flushed := (render job template column).run.run
      { s with world := s.world.record (.flush job.stream) }
    flushed.1 = plain.1 ∧ plain.2.FlushedOnceMore job.stream flushed.2 := by
  intro plain flushed
  have hmade : Act.MadeOf (fun _ ↦ True) (render (σ := σ) job template column) :=
    .render ⟨fun _ ↦ trivial, trivial, trivial, fun _ _ ↦ trivial, trivial⟩ (fun _ _ ↦ trivial)
      column
  -- The same row of moves, after two different pasts.
  obtain ⟨outcome, row, -, hrun⟩ := hmade { s with world := s.world.forget }
  let bare : Scene σ := { s with world := s.world.forget }
  have hplain : plain = (outcome, (bare.moves row).preceded s.world.trace) := by
    rw [← hrun]
    simp only [Scene.preceded, World.preceded_forget, plain]
  have hflushed : flushed =
      (outcome, (bare.moves row).preceded (s.world.trace.push (.flush job.stream))) := by
    rw [← hrun]
    simp [flushed, Scene.preceded, World.preceded, World.forget, World.record]
  rw [hplain, hflushed]
  exact ⟨rfl, Scene.flushedOnceMore_preceded job.stream s.world.trace _⟩

/-- The first of two renderings flushes once more; nothing else is different. -/
theorem render_append {first : List Char} (h : isComplete first = true) (job : Job)
    (second : List Char) (column : Nat) :
    render (σ := σ) job (first ++ second) column =
      (renderText job first column >>= render job second) := by
  unfold render
  rw [renderText_append h, bind_assoc]

/-- Rendered one after the other, two templates are flushed once more than in one, if the second comes
to be rendered at all. -/
theorem run_render_bind {first : List Char} (h : isComplete first = true) (job : Job)
    (second : List Char) (column : Nat) {s : Scene σ}
    (hflush : (s.world.sinks.get job.stream).flushFails = false) :
    let once := (render job (first ++ second) column).run.run s
    let twice := (render job first column >>= render job second).run.run s
    twice.1 = once.1 ∧
      match ((renderText job first column).run.run s).1 with
      | .ok _ => once.2.FlushedOnceMore job.stream twice.2
      | .error _ => twice.2 = once.2 := by
  intro once twice
  have honce : once = (renderText job first column >>= render job second).run.run s := by
    rw [← render_append h]
  have htwice : twice = (renderText job first column >>= fun last ↦ do
      Act.flush job.stream
      render job second last).run.run s := by
    simp only [twice, render, bind_assoc, pure_bind]
  have hkept := Act.Within.renderText (fun _ _ ↦ rfl)
    (Scene.admits_flushFails (σ := σ) job.stream) first column s job.stream
  rw [honce, htwice, Act.run_bind, Act.run_bind]
  rcases hrun : (renderText job first column).run.run s with ⟨cause | last, next⟩
  · exact ⟨rfl, rfl⟩
  · rw [hrun, hflush] at hkept
    have hflushed :
        next.world.flush job.stream = (true, next.world.record (.flush job.stream)) := by
      simp [World.flush, hkept]
    dsimp only
    rw [Act.run_bind, Act.run_flush, hflushed]
    exact render_flushed job second last next

/-- A complete template and another one behind it are rendered in one as they are one after the
other: with the same outcome in the same scene, apart from the flush in between. So a status
directive behind a complete template is rendered as the text of the built-in status line is. -/
theorem render_append_of_isComplete {first : List Char} (h : isComplete first = true) (job : Job)
    (column : Nat) :
    (∀ second, render (σ := σ) job (first ++ second) column =
      (renderText job first column >>= render job second)) ∧
    (∀ second (s : Scene σ), (s.world.sinks.get job.stream).flushFails = false →
      let once := (render job (first ++ second) column).run.run s
      let twice := (render job first column >>= render job second).run.run s
      twice.1 = once.1 ∧
        match ((renderText job first column).run.run s).1 with
        | .ok _ => once.2.FlushedOnceMore job.stream twice.2
        | .error _ => twice.2 = once.2) ∧
    (∀ rest, render (σ := σ) job (first ++ '%' :: 'c' :: rest) column =
      render job (first ++ statusTemplate ++ rest) column) ∧
    ∀ text a rest, Argument.capture? text = some (a, 'c' :: rest) →
      render (σ := σ) job (first ++ '%' :: '\x7b' :: text) column =
        render job (first ++ statusTemplate ++ rest) column := by
  refine ⟨fun second ↦ render_append h job second column,
    fun second s hflush ↦ run_render_bind h job second column hflush, fun rest ↦ ?_,
    fun text a rest hcapture ↦ ?_⟩
  · exact render_congr (inlined_status h (pieces_directive (by decide) rest)) job column
  · exact render_congr (inlined_status h (pieces_argument hcapture)) job column

/-- A template with an escaped brace in an argument, and behind it one with a loose percent sign and
one with a status directive that has an argument. -/
theorem render_append_of_escaped_brace :
    let first := "%\x7b%H\\\x7d%M\x7dt%%".toList
    let second := "u%\x7ba\x7d".toList
    let text := "\\\\\x7dc%".toList
    let job : Job := { stream := .out, isWrite := true, checkpoint := 7 }
    let s : Scene ScriptedHost := { world := {}, host := {} }
    isComplete first = true ∧ (s.world.sinks.get .out).flushFails = false ∧
      Argument.capture? text = some (⟨['\\'], ['\\', '\\']⟩, ['c', '%']) ∧
      ((render job first 3 >>= render job second).run.run s).1 =
        ((render job (first ++ second) 3).run.run s).1 ∧
      render (σ := ScriptedHost) job (first ++ '%' :: '\x7b' :: text) 3 =
        render job (first ++ statusTemplate ++ ['%']) 3 := by
  intro first second text job s
  have hfirst : isComplete first = true := by decide +kernel
  have hflush : (s.world.sinks.get .out).flushFails = false := rfl
  have hcapture : Argument.capture? text = some (⟨['\\'], ['\\', '\\']⟩, 'c' :: ['%']) := by
    decide +kernel
  obtain ⟨-, htwice, -, hstatus⟩ := render_append_of_isComplete (σ := ScriptedHost) hfirst job 3
  exact ⟨hfirst, hflush, hcapture, (htwice second s hflush).1, hstatus text _ _ hcapture⟩

end Template

end ProgressActions
