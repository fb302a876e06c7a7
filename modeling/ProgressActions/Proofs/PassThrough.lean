import ProgressActions.Host.Scripted
import ProgressActions.Proofs.Account
import ProgressActions.Proofs.HostCalls
import ProgressActions.Proofs.Scan

/-!
# Templates without known directives

A template that holds no directive with a letter that is known passes through: it comes out as it
stands, but for the arguments of its directives. Percent signs, letters, braces that are not closed and
an argument at the very end are put together again from the pieces that the scan has made of them. The
host has no part in this, so it does not matter which one there is.
-/

namespace ProgressActions

open Template

/-! ## Texts written in a row -/

/-- A text fits if its second part fits behind the first. -/
theorem Sink.fits_append (s : Sink) (first second : List UInt8) :
    s.fits (first ++ second) = (s.fits first && (s.afterWrite first).fits second) := by
  unfold Sink.fits Sink.afterWrite
  cases s.room with
  | none => rfl
  | some n =>
    rw [Bool.eq_iff_iff]
    simp
    omega

namespace World

/-- The world after texts have been written to a stream, one after the other. -/
def writeAll (stream : Stream) (texts : List (List Char)) (w : World) : World :=
  texts.foldl (fun w text ↦ (w.write stream (Text.bytes text)).2) w

variable {stream : Stream}

theorem writeAll_append (first second : List (List Char)) (w : World) :
    w.writeAll stream (first ++ second) = (w.writeAll stream first).writeAll stream second :=
  List.foldl_append

/-- What is written takes no more room than it needs. -/
theorem fits_write {w : World} {first second : List UInt8}
    (h : (w.sinks.get stream).fits (first ++ second) = true) :
    (w.write stream first).1 = true ∧
      ((w.write stream first).2.sinks.get stream).fits second = true := by
  rw [Sink.fits_append, Bool.and_eq_true] at h
  refine ⟨h.1, ?_⟩
  rw [sinks_write]
  cases stream with
  | stderr => rfl
  | _ => exact h.2

/-- If a row of texts and more fits, the row fits, and more fits after it. -/
theorem fits_writeAll {texts : List (List Char)} {w : World} {more : List UInt8}
    (h : (w.sinks.get stream).fits (Text.bytes texts.flatten ++ more) = true) :
    (w.sinks.get stream).fits (Text.bytes texts.flatten) = true ∧
      ((w.writeAll stream texts).sinks.get stream).fits more = true := by
  refine ⟨?_, ?_⟩
  · rw [Sink.fits_append, Bool.and_eq_true] at h
    exact h.1
  · induction texts generalizing w with
    | nil => simpa [writeAll] using h
    | cons text rest ih =>
      rw [List.flatten_cons, Text.bytes_append, List.append_assoc] at h
      exact ih (fits_write h).2

/-- A row of texts that fits is stored one after the other. -/
theorem contents_writeAll {texts : List (List Char)} {w : World}
    (h : (w.sinks.get stream).fits (Text.bytes texts.flatten) = true) :
    (w.writeAll stream texts).contents stream = w.contents stream ++ Text.bytes texts.flatten := by
  induction texts generalizing w with
  | nil => simp [writeAll]
  | cons text rest ih =>
    rw [List.flatten_cons, Text.bytes_append] at h ⊢
    obtain ⟨hfits, hroom⟩ := fits_write h
    refine (ih hroom).trans ?_
    rw [contents_write, Sink.stored_of_fits hfits, List.append_assoc]

theorem selected_writeAll {kind : Event → Bool} (h : Event.Calls kind) (texts : List (List Char))
    (w : World) : (w.writeAll stream texts).selected kind = w.selected kind := by
  induction texts generalizing w with
  | nil => rfl
  | cons text rest ih => exact (ih _).trans (selected_write (fun _ ↦ h.write stream _) w)

end World

/-! ## Printing -/

/-- An activity that prints texts: where they fit they are written one after the other, and nothing
else is done, but that a carriage return may be taken note of. -/
def Act.Prints {σ α : Type} (stream : Stream) (texts : List (List Char)) (returns : Bool) (result : α)
    (activity : Act σ α) : Prop :=
  ∀ s : Scene σ, (s.world.sinks.get stream).fits (Text.bytes texts.flatten) = true →
    activity.run.run s =
      (.ok result,
        { s with
          world := s.world.writeAll stream texts
          lineReset := s.lineReset || returns })

namespace Act.Prints

variable {σ α β : Type} {stream : Stream}

theorem pure (a : α) : Prints stream [] false a (Pure.pure a : Act σ α) := by
  rintro ⟨world, host, lineReset⟩ -
  rw [run_pure, Bool.or_false]
  rfl

theorem bind {first : Act σ α} {second : α → Act σ β} {early late : List (List Char)}
    {before after : Bool} {a : α} {b : β} (hfirst : Prints stream early before a first)
    (hsecond : Prints stream late after b (second a)) :
    Prints stream (early ++ late) (before || after) b (first >>= second) := by
  intro s h
  rw [List.flatten_append, Text.bytes_append] at h
  obtain ⟨hearly, hlate⟩ := World.fits_writeAll h
  rw [run_bind, hfirst s hearly]
  dsimp only
  rw [hsecond _ hlate, World.writeAll_append, Bool.or_assoc]

theorem write (text : List Char) : Prints stream [text] false () (Act.write (σ := σ) stream text) := by
  rintro ⟨world, host, lineReset⟩ h
  rw [List.flatten_singleton] at h
  have hfits : (world.write stream (Text.bytes text)).1 = true := h
  rw [run_write, if_pos hfits, Bool.or_false]
  rfl

theorem noteReturn :
    Prints stream [] true () (modify ({ · with lineReset := true }) : Act σ Unit) := by
  rintro s -
  rw [run_modify, Bool.or_true]
  rfl

end Act.Prints

namespace Template

/-! ## Texts that pass -/

def knownLetters : List Char := ['c', 'u', 's', 'd', 'T', 't', '*']

/-- A template passes as a text: its directives are all unknown, and the text is what is left of it
without their arguments. -/
inductive Passes : List Char → List Char → Prop where
  | nil : Passes [] []
  | literal {c : Char} {rest text : List Char} : c ≠ '%' → Passes rest text →
      Passes (c :: rest) (c :: text)
  | letter {letter : Char} {rest text : List Char} : letter ≠ '\x7b' → letter ∉ knownLetters →
      Passes rest text → Passes ('%' :: letter :: rest) ('%' :: letter :: text)
  /-- The argument of a directive is left out. -/
  | argument {raw rest text : List Char} {letter : Char} : Argument.IsRaw raw →
      letter ∉ knownLetters → Passes rest text →
      Passes ('%' :: '\x7b' :: raw ++ '}' :: letter :: rest) ('%' :: letter :: text)
  /-- After a brace that is not closed the scan goes on at once. -/
  | unclosed {rest text : List Char} : NeverCloses rest → Passes rest text →
      Passes ('%' :: '\x7b' :: rest) ('%' :: '\x7b' :: text)
  | percent : Passes ['%'] ['%']
  /-- An argument at the very end stays, with its backslashes. -/
  | dangling {raw : List Char} : Argument.IsRaw raw →
      Passes ('%' :: '\x7b' :: raw ++ ['}']) ('%' :: '\x7b' :: raw ++ ['}'])

def Piece.IsUnknown : Piece → Prop
  | directive letter _ => letter ∉ knownLetters
  | _ => True

instance (piece : Piece) : Decidable piece.IsUnknown :=
  match piece with
  | .directive letter _ => inferInstanceAs (Decidable (letter ∉ knownLetters))
  | .literal _ | .unclosed | .dangling _ => inferInstanceAs (Decidable True)

/-- A text passes only for the bare texts of unknown pieces. -/
theorem isUnknown_of_passes {template text : List Char} (h : Passes template text) :
    (∀ piece ∈ pieces template, piece.IsUnknown) ∧
      text = (pieces template).flatMap fun piece ↦ piece.bare.text := by
  induction h with
  | nil => simp
  | literal hc _ ih =>
    rw [pieces_literal hc]
    simpa [Piece.IsUnknown, Piece.bare, Piece.text] using ih
  | letter hbrace hletter _ ih =>
    rw [pieces_directive hbrace]
    simpa [Piece.IsUnknown, Piece.bare, Piece.text, Argument.text, hletter] using ih
  | argument hraw hletter _ ih =>
    rw [List.cons_append, List.cons_append, pieces_argument (Argument.capture?_of_isRaw hraw _)]
    simpa [Piece.IsUnknown, Piece.bare, Piece.text, Argument.text, hletter] using ih
  | unclosed hnever _ ih =>
    rw [pieces_unclosed (Argument.capture?_eq_none_iff.2 hnever)]
    simpa [Piece.IsUnknown, Piece.bare, Piece.text] using ih
  | percent =>
    rw [pieces_percent]
    simp [Piece.IsUnknown, Piece.bare, Piece.text, Argument.text]
  | dangling hraw =>
    rw [List.cons_append, List.cons_append, pieces_dangling (Argument.capture?_of_isRaw hraw _)]
    simp [Piece.IsUnknown, Piece.bare, Piece.text, Argument.text]

/-- The bare texts of unknown pieces pass. -/
theorem passes_of_isUnknown {template : List Char} (h : ∀ piece ∈ pieces template, piece.IsUnknown) :
    Passes template ((pieces template).flatMap fun piece ↦ piece.bare.text) := by
  fun_induction pieces template with
  | case1 => exact .nil
  | case2 rest hcapture ih =>
    obtain ⟨-, hrest⟩ := List.forall_mem_cons.1 h
    exact .unclosed (Argument.capture?_eq_none_iff.1 hcapture) (ih hrest)
  | case3 rest a hcapture =>
    obtain ⟨rfl, hraw, -⟩ := Argument.capture?_eq_some_iff.1 hcapture
    simpa [Piece.bare, Piece.text, Argument.text] using Passes.dangling hraw
  | case4 rest a letter after hcapture hlength ih =>
    obtain ⟨rfl, hraw, -⟩ := Argument.capture?_eq_some_iff.1 hcapture
    obtain ⟨hletter, hrest⟩ := List.forall_mem_cons.1 h
    exact .argument hraw hletter (ih hrest)
  | case5 => exact .percent
  | case6 letter rest hbrace ih =>
    obtain ⟨hletter, hrest⟩ := List.forall_mem_cons.1 h
    exact .letter hbrace hletter (ih hrest)
  | case7 c rest hbrace hend hnext ih =>
    obtain ⟨-, hrest⟩ := List.forall_mem_cons.1 h
    exact .literal (ne_percent hend hnext) (ih hrest)

/-- A template passes if all its directives are unknown, and what it passes as are its pieces without
the arguments of directives. -/
theorem passes_iff {template text : List Char} :
    Passes template text ↔
      (∀ piece ∈ pieces template, piece.IsUnknown) ∧
        text = (pieces template).flatMap fun piece ↦ piece.bare.text := by
  refine ⟨isUnknown_of_passes, ?_⟩
  rintro ⟨h, rfl⟩
  exact passes_of_isUnknown h

/-! ## Renderings -/

/-- The texts that a piece is written as, without the argument of a directive. -/
def Piece.printed : Piece → List (List Char)
  | dangling (some a) => [['%'], Argument.text (some a)]
  | piece => [piece.bare.text]

/-- The column after a piece that is written without the argument of a directive. -/
def Piece.columnAfter (column : Nat) : Piece → Nat
  | literal '\r' => 0
  | piece => column + piece.bare.text.length

/-- The texts that a piece is printed in make up its bare text. -/
theorem Piece.flatten_printed (piece : Piece) : piece.printed.flatten = piece.bare.text := by
  cases piece with
  | dangling argument => cases argument <;> simp [printed, bare, text, Argument.text]
  | _ => simp [printed]

theorem flatten_flatMap_printed (row : List Piece) :
    (row.flatMap Piece.printed).flatten = row.flatMap fun piece ↦ piece.bare.text := by
  simp [List.flatMap, List.flatten_flatten, Function.comp_def, Piece.flatten_printed]

variable {σ : Type} [Host σ] {job : Job} {status : Nat → Act σ Nat}

open Act (Prints)

/-- A directive with a letter that is not known is echoed. -/
theorem renderDirective_of_not_mem {letter : Char} (h : letter ∉ knownLetters)
    (argument : Option Argument) (column : Nat) :
    renderDirective job status letter argument column = renderUnknown job letter column := by
  unfold renderDirective
  split <;> first | exact absurd (by decide) h | rfl

/-- A piece that is no directive, or an unknown one, is printed without its argument. -/
theorem prints_renderPiece (job : Job) (status : Nat → Act σ Nat) {piece : Piece}
    (h : piece.IsUnknown) (column : Nat) :
    Prints job.stream piece.printed (piece == .literal '\r') (piece.columnAfter column)
      (renderPiece job status piece column) := by
  cases piece with
  | literal c =>
    by_cases hc : c = '\r'
    · obtain rfl := hc
      exact .bind (.write ['\r']) (.bind .noteReturn (.pure 0))
    · have hplain : (Piece.literal c).columnAfter column = column + 1 := by
        rw [Piece.columnAfter]
        · rfl
        · intro heq
          exact hc (Piece.literal.inj heq)
      have hquiet : (Piece.literal c == .literal '\r') = false := by simpa using hc
      rw [hplain, hquiet, renderPiece, renderLiteral, if_neg hc]
      exact .bind (.write [c]) (.pure _)
  | unclosed => exact .bind (.write _) (.pure _)
  | directive letter argument =>
    rw [renderPiece, renderDirective_of_not_mem h]
    exact .bind (.write _) (.pure _)
  | dangling argument =>
    cases argument with
    | none => exact .bind (.write _) (.pure _)
    | some a =>
      have hlength : (Piece.dangling (some a)).columnAfter column =
          column + 1 + (a.raw.length + 2) := by
        simp [Piece.columnAfter, Piece.bare, Piece.text, Argument.text]
        omega
      rw [hlength]
      exact .bind (.write _) (.bind (.write _) (.pure _))

/-- A row of unknown pieces is printed one after the other. -/
theorem prints_renderPieces {row : List Piece} (h : ∀ piece ∈ row, piece.IsUnknown) (column : Nat) :
    Prints job.stream (row.flatMap Piece.printed) (row.contains (.literal '\r'))
      (row.foldl Piece.columnAfter column) (renderPieces job status row column) := by
  induction row generalizing column with
  | nil => exact .pure column
  | cons piece rest ih =>
    have hfirst := prints_renderPiece job status (h piece List.mem_cons_self) column
    have hrest := ih (List.forall_mem_cons.1 h).2 (piece.columnAfter column)
    rw [List.flatMap_cons, List.contains_cons, List.foldl_cons, BEq.comm, renderPieces]
    exact .bind hfirst hrest

/-- Where no directive has an argument, a template is made of its pieces without arguments too. -/
theorem flatMap_text_bare {template : List Char}
    (h : ∀ letter a, .directive letter (some a) ∉ pieces template) :
    ((pieces template).flatMap fun piece ↦ piece.bare.text) = template := by
  conv_rhs => rw [← flatMap_text_pieces template]
  refine List.flatMap_congr fun piece hpiece ↦ ?_
  match piece with
  | .directive letter (some a) => exact absurd hpiece (h letter a)
  | .directive letter none | .literal c | .unclosed | .dangling argument => rfl

/-- Where the text of a template is printed, only the flush is left. -/
theorem run_render_of_prints {template : List Char} {column last : Nat} {texts : List (List Char)}
    {returns : Bool} (h : Prints job.stream texts returns last (renderText (σ := σ) job template column))
    {s : Scene σ} (hfits : (s.world.sinks.get job.stream).fits (Text.bytes texts.flatten) = true) :
    (render job template column).run.run s =
      (if (s.world.sinks.get job.stream).flushFails then .error (.failure .flushFailed) else .ok last,
        { s with
          world := ((s.world.writeAll job.stream texts).flush job.stream).2
          lineReset := s.lineReset || returns }) := by
  have hkept := Act.Within.renderText (fun _ _ ↦ rfl)
    (Scene.admits_flushFails (σ := σ) job.stream) template column s job.stream
  rw [h s hfits] at hkept
  have hflush : ((s.world.writeAll job.stream texts).flush job.stream).1 =
      !(s.world.sinks.get job.stream).flushFails := congrArg not hkept
  rw [render, Act.run_bind, h s hfits]
  dsimp only
  rw [Act.run_bind, Act.run_flush, hflush]
  cases (s.world.sinks.get job.stream).flushFails <;> rfl

/-- A template without known directives passes through. There is one text that it passes as, and that
is the template itself if no directive has an argument. On every stream where this text fits it is what
is written, and the rendering comes to the same on every host: it writes and flushes, and takes note of
the literal carriage returns, but leaves the host alone and asks nothing of it. -/
theorem render_of_unknown_letters {template : List Char}
    (hunknown : ∀ piece ∈ pieces template, piece.IsUnknown) (job : Job) (column : Nat) :
    ∃ (output : List Char) (texts : List (List Char)) (last : Nat),
      (∀ text, Passes template text ↔ text = output) ∧ texts.flatten = output ∧
      ((∀ letter a, .directive letter (some a) ∉ pieces template) → output = template) ∧
      ∀ (σ : Type) [Host σ] (s : Scene σ),
        (s.world.sinks.get job.stream).fits (Text.bytes output) = true →
        let run := (render job template column).run.run s
        run =
          (if (s.world.sinks.get job.stream).flushFails then .error (.failure .flushFailed)
            else .ok last,
            { s with
              world := ((s.world.writeAll job.stream texts).flush job.stream).2
              lineReset := s.lineReset || (pieces template).contains (.literal '\r') }) ∧
        run.2.world.contents job.stream = s.world.contents job.stream ++ Text.bytes output ∧
        run.2.world.selected Event.isHostCall = s.world.selected Event.isHostCall := by
  refine ⟨_, (pieces template).flatMap Piece.printed, (pieces template).foldl Piece.columnAfter column,
    fun text ↦ ?_, flatten_flatMap_printed _, flatMap_text_bare, fun σ _ s hfits ↦ ?_⟩
  · rw [passes_iff, and_iff_right hunknown]
  · rw [← flatten_flatMap_printed] at hfits ⊢
    intro run
    have hrun : run = _ := run_render_of_prints (prints_renderPieces hunknown column) hfits
    rw [hrun]
    refine ⟨rfl, ?_, ?_⟩
    · rw [World.flush, World.contents_record, World.contents_writeAll hfits]
      exact List.append_nil _
    · rw [World.flush, World.selected_record_of_not rfl,
        World.selected_writeAll Event.calls_isHostCall]

/-- An escaped percent sign, an argument that goes, and one that stays because nothing follows it, on a
stream that has room for just what is left. -/
theorem render_of_percent_signs :
    let template := "50%% %\x7ba\\\x7db\x7dq\r%\x7b\\\\\x7d".toList
    let output := "50%% %q\r%\x7b\\\\\x7d".toList
    let s : Scene ScriptedHost := { world := { sinks := { out := { room := some 13 } } }, host := {} }
    let run := (render { stream := .out, isWrite := true, checkpoint := 1 } template 7).run.run s
    run.1.isOk = true ∧ run.2.world.contents .out = Text.bytes output ∧ run.2.lineReset = true ∧
      run.2.world.selected Event.isHostCall = [] := by
  intro template output s run
  have hunknown : ∀ piece ∈ pieces template, piece.IsUnknown := by decide +kernel
  obtain ⟨text, texts, last, hpasses, -, -, hrun⟩ :=
    render_of_unknown_letters hunknown { stream := .out, isWrite := true, checkpoint := 1 } 7
  obtain rfl : output = text := (hpasses output).1 (passes_iff.2 ⟨hunknown, by decide +kernel⟩)
  obtain ⟨hresult, hcontents, hcalls⟩ := hrun ScriptedHost s (by decide +kernel)
  have hreturn : (pieces template).contains (.literal '\r') = true := by decide +kernel
  refine ⟨congrArg (·.1.isOk) hresult, hcontents, ?_, hcalls⟩
  exact (congrArg (·.2.lineReset) hresult).trans hreturn

end Template

end ProgressActions
