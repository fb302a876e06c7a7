import Mathlib.Data.List.DropRight
import ProgressActions.Proofs.Account
import ProgressActions.Proofs.Beside
import ProgressActions.Proofs.Moves
import ProgressActions.Proofs.SingleLine

/-!
# The column of the cursor

A rendering counts columns as it goes. What it answers is where the text that it wrote leaves the
cursor, as long as every carriage return of the text is a literal of the template: a carriage return
that hides in a directive would be written without the count going back.
-/

namespace ProgressActions

open Template

/-! ## Cursors -/

namespace Text

/-- The column of the cursor after a text: the characters behind the last carriage return, or, when
there is none, all of them and the columns before. -/
def cursor (column : Nat) (text : List Char) : Nat :=
  if '\r' ∈ text then (text.rtakeWhile (· ≠ '\r')).length else column + text.length

@[simp] theorem cursor_nil (column : Nat) : cursor column [] = column := rfl

/-- Without a carriage return the cursor only goes on. -/
theorem cursor_of_not_mem {text : List Char} (h : '\r' ∉ text) (column : Nat) :
    cursor column text = column + text.length := if_neg h

/-- The last carriage return is in the second text if there is one. -/
theorem rtakeWhile_append_of_mem (first : List Char) {second : List Char} (h : '\r' ∈ second) :
    (first ++ second).rtakeWhile (· ≠ '\r') = second.rtakeWhile (· ≠ '\r') := by
  have hshort : (second.reverse.takeWhile (· ≠ '\r')).length ≠ second.reverse.length := by
    intro hlength
    have hself := (List.takeWhile_prefix (· ≠ '\r')).eq_of_length hlength
    simpa using List.takeWhile_eq_self_iff.1 hself '\r' (by simpa using h)
  unfold List.rtakeWhile
  rw [List.reverse_append, List.takeWhile_append, if_neg hshort]

theorem rtakeWhile_append_of_not_mem (first : List Char) {second : List Char} (h : '\r' ∉ second) :
    (first ++ second).rtakeWhile (· ≠ '\r') = first.rtakeWhile (· ≠ '\r') ++ second := by
  have hall : ∀ c ∈ second.reverse, decide (c ≠ '\r') = true := by
    intro c hc
    rw [decide_eq_true_eq]
    rintro rfl
    exact h (List.mem_reverse.1 hc)
  unfold List.rtakeWhile
  rw [List.reverse_append, List.takeWhile_append_of_pos hall, List.reverse_append,
    List.reverse_reverse]

/-- Only what is behind the last carriage return counts, so a cursor goes on from where it is. -/
theorem cursor_append (column : Nat) (first second : List Char) :
    cursor column (first ++ second) = cursor (cursor column first) second := by
  unfold cursor
  by_cases hsecond : '\r' ∈ second
  · have hboth : '\r' ∈ first ++ second := List.mem_append_right _ hsecond
    rw [if_pos hboth, if_pos hsecond, rtakeWhile_append_of_mem first hsecond]
  · rw [if_neg hsecond, rtakeWhile_append_of_not_mem first hsecond, List.length_append,
      List.length_append]
    by_cases hfirst : '\r' ∈ first
    · rw [if_pos (List.mem_append_left _ hfirst), if_pos hfirst]
    · rw [if_neg (by simp [hfirst, hsecond]), if_neg hfirst, Nat.add_assoc]

end Text

/-! ## What is written -/

def Move.output (stream : Stream) : Move → List UInt8
  | .write other content => if other = stream then content else []
  | _ => []

variable {σ α β : Type}

section

variable [Host σ] [Host.Steady σ]

open Host.Steady

/-- What is done between two scenes writes a text to a stream, and leaves the host as it is but for
the time that it remembers and the errors that it counts. On the standard error, the log of the host
may stand between the writes. -/
structure Scene.Wrote (stream : Stream) (text : List Char) (s t : Scene σ) : Prop where
  moves : ∃ row, t = s.moves row ∧ row.flatMap (Move.output stream) = Text.bytes text
  contents : stream ≠ .stderr →
    t.world.contents stream = s.world.contents stream ++ Text.bytes text
  host : core t.host = core s.host

namespace Scene.Wrote

variable {stream : Stream} {first second : List Char} {s t u : Scene σ}

theorem refl (stream : Stream) (s : Scene σ) : s.Wrote stream [] s where
  moves := ⟨[], rfl, rfl⟩
  contents _ := (List.append_nil _).symm
  host := rfl

theorem trans (hfirst : s.Wrote stream first t) (hsecond : t.Wrote stream second u) :
    s.Wrote stream (first ++ second) u where
  moves := by
    obtain ⟨early, rfl, hearly⟩ := hfirst.moves
    obtain ⟨late, rfl, hlate⟩ := hsecond.moves
    exact ⟨early ++ late, (moves_append s early late).symm, by simp [hearly, hlate]⟩
  contents h := by
    rw [hsecond.contents h, hfirst.contents h, Text.bytes_append, List.append_assoc]
  host := hsecond.host.trans hfirst.host

/-- A move that writes nothing to the stream. -/
theorem of_quiet {m : Move} (hquiet : m.output stream = [])
    (hcontents : stream ≠ .stderr → (s.move m).world.contents stream = s.world.contents stream)
    (hcore : core (s.move m).host = core s.host) : s.Wrote stream [] (s.move m) where
  moves := ⟨[m], rfl, by simp [hquiet]⟩
  contents h := by rw [hcontents h, Text.bytes_nil, List.append_nil]
  host := hcore

theorem of_record {m : Move} {event : Event} (hworld : (s.move m).world = s.world.record event)
    (hoff : event.contentOn stream = []) (hquiet : m.output stream = [])
    (hcore : core (s.move m).host = core s.host) : s.Wrote stream [] (s.move m) :=
  of_quiet hquiet (fun _ ↦ by rw [hworld, World.contents_record, hoff, List.append_nil]) hcore

theorem write (s : Scene σ) {text : List Char}
    (hfits : (s.world.write stream (Text.bytes text)).1 = true) :
    s.Wrote stream text { s with world := (s.world.write stream (Text.bytes text)).2 } where
  moves := ⟨[.write stream (Text.bytes text)], rfl, by simp [Move.output]⟩
  contents _ := by rw [World.contents_write, Sink.stored_of_fits hfits]
  host := rfl

theorem reportError (message : String) (s : Scene σ) :
    s.Wrote stream [] (s.move (.reportError message)) := by
  refine of_quiet rfl (fun hstream ↦ ?_) (core_noteError message s.host)
  exact (World.contents_noted hstream _ _).trans
    ((World.contents_record _ _ _).trans (List.append_nil _))

end Scene.Wrote

/-- An activity that writes on a stream, begun on hosts with the core of this one: when it succeeds,
its result and the text that it wrote are as they should be. -/
def Act.Writes (stream : Stream) (host : σ) (activity : Act σ α) (post : α → List Char → Prop) :
    Prop :=
  ∀ (s t : Scene σ) (a : α), core s.host = core host → activity.run.run s = (.ok a, t) →
    ∃ text, post a text ∧ s.Wrote stream text t

namespace Act.Writes

variable {stream : Stream} {host : σ} {post : α → List Char → Prop} {next : β → List Char → Prop}

theorem mono {activity : Act σ α} (h : Writes stream host activity post)
    {weaker : α → List Char → Prop} (hweaker : ∀ {a text}, post a text → weaker a text) :
    Writes stream host activity weaker := by
  intro s t a hcore hrun
  obtain ⟨text, hpost, hwrote⟩ := h s t a hcore hrun
  exact ⟨text, hweaker hpost, hwrote⟩

theorem pure {a : α} (h : post a []) : Writes stream host (Pure.pure a : Act σ α) post := by
  intro s t b _ hrun
  cases hrun
  exact ⟨[], h, .refl stream s⟩

theorem throw (cause : Interruption) :
    Writes stream host (MonadExcept.throw cause : Act σ α) post := by
  intro s t a _ hrun
  cases hrun

theorem bind {first : Act σ α} {second : α → Act σ β} (hfirst : Writes stream host first post)
    (hsecond : ∀ a text, post a text →
      Writes stream host (second a) fun b later ↦ next b (text ++ later)) :
    Writes stream host (first >>= second) next := by
  intro s u b hcore hrun
  rw [run_bind] at hrun
  rcases hmiddle : first.run.run s with ⟨cause | a, t⟩
  · rw [hmiddle] at hrun
    cases hrun
  · rw [hmiddle] at hrun
    obtain ⟨text, hpost, hwrote⟩ := hfirst s t a hcore hmiddle
    obtain ⟨later, hnext, hlater⟩ := hsecond a text hpost t u b (hwrote.host.trans hcore) hrun
    exact ⟨text ++ later, hnext, hwrote.trans hlater⟩

/-- An activity that makes a single move without writing. -/
theorem of_move {activity : Act σ α} (m : Move) (outcome : Scene σ → Except Interruption α)
    (hrun : ∀ s, activity.run.run s = (outcome s, s.move m))
    (hwrote : ∀ s : Scene σ, s.Wrote stream [] (s.move m)) :
    Writes stream host activity fun _ text ↦ text = [] := by
  intro s t a _ h
  rw [hrun, Prod.mk.injEq] at h
  obtain ⟨-, rfl⟩ := h
  exact ⟨[], rfl, hwrote s⟩

theorem write (text : List Char) :
    Writes stream host (Act.write stream text) fun _ written ↦ written = text := by
  intro s t a _ hrun
  rw [run_write] at hrun
  cases hfits : (s.world.write stream (Text.bytes text)).1 with
  | false =>
    rw [hfits] at hrun
    cases hrun
  | true =>
    rw [hfits] at hrun
    cases hrun
    exact ⟨text, rfl, .write s hfits⟩

theorem emit (text : List Char) :
    Writes stream host (Act.emit stream text) fun n written ↦
      written = text ∧ n = text.length :=
  bind (write text) fun _ written hwritten ↦ pure (by simp [hwritten])

theorem flush : Writes stream host (Act.flush stream) fun _ text ↦ text = [] :=
  of_move (.flush stream) _ (run_flush stream) fun _ ↦ .of_record rfl rfl rfl rfl

theorem elapsed : Writes stream host Act.elapsed fun _ text ↦ text = [] :=
  of_move .askElapsed _ run_elapsed fun s ↦ .of_record rfl rfl rfl (core_measure _ s.host)

theorem reportError (message : String) :
    Writes stream host (Act.reportError message) fun _ text ↦ text = [] :=
  of_move (.reportError message) _ (run_reportError message) (.reportError message)

theorem width : Writes stream host (Act.width stream) fun _ text ↦ text = [] := by
  intro s t a _ hrun
  rw [run_width] at hrun
  cases hrun
  exact ⟨[], rfl, .refl stream s⟩

theorem localized (message : String) :
    Writes stream host (Act.localized message) fun word text ↦
      text = [] ∧ word = (Host.localize host message).toList := by
  intro s t a hcore hrun
  rw [run_localized, localize_eq hcore] at hrun
  cases hrun
  exact ⟨[], ⟨rfl, rfl⟩, .refl stream s⟩

/-- An activity that looks at its scene. -/
theorem get_bind {second : Scene σ → Act σ β}
    (h : ∀ s, Writes stream host (second s) next) :
    Writes stream host (MonadState.get >>= second) next := by
  intro s t b hcore hrun
  rw [run_bind, run_get] at hrun
  exact h s s t b hcore hrun

/-! ### Totals -/

theorem totalsLabels {argument : Option Argument} (h : ∀ a ∈ argument, '\r' ∉ a.value) :
    Writes stream host (totalsLabels argument) fun labels text ↦
      text = [] ∧ labels.IsSingleLine := by
  unfold Template.totalsLabels
  cases argument with
  | none => exact pure ⟨rfl, Labels.isSingleLine_default⟩
  | some a =>
    dsimp only
    cases hsplit : splitLabels a.value with
    | ok words =>
      have hwords := return_not_mem_splitLabels (h a rfl) hsplit
      exact pure ⟨rfl, Labels.isSingleLine_ofWords hwords⟩
    | error e =>
      refine bind (reportError e.message) fun _ text htext ↦ pure ?_
      exact ⟨by rw [htext]; rfl, Labels.isSingleLine_default⟩

theorem totals [Host.SingleLine σ] {labels : Labels} (hlabels : labels.IsSingleLine) :
    Writes stream host (Act.totals stream labels ',') fun n text ↦
      '\r' ∉ text ∧ n = text.length := by
  have hasked : Writes stream host (Act.record (.askTotals labels ',')) fun _ text ↦ text = [] :=
    of_move (.askTotals labels ',') _ (run_record _) fun _ ↦ .of_record rfl rfl rfl rfl
  refine bind hasked fun _ before hbefore ↦ get_bind fun s ↦ ?_
  rw [hbefore]
  cases htotals : Host.totals s.host labels ',' with
  | error cause => exact throw _
  | ok shown =>
    have hshown := Host.SingleLine.totals s.host hlabels (by decide) htotals
    refine mono (emit shown.toList) fun {n text} hn ↦ ?_
    rw [List.nil_append, hn.1, hn.2]
    exact ⟨hshown, rfl⟩

end Act.Writes

/-! ## Counting -/

/-- An activity counts columns: the number it comes to is the column after the text it writes. -/
def Act.Counts (stream : Stream) (host : σ) (column : Nat) (activity : Act σ Nat) : Prop :=
  activity.Writes stream host fun last text ↦ last = Text.cursor column text

namespace Act.Counts

variable {stream : Stream} {host : σ} {column : Nat}

/-- A text on one line moves the cursor by its length. -/
theorem of_length {activity : Act σ Nat}
    (h : activity.Writes stream host fun n text ↦ '\r' ∉ text ∧ n = text.length) :
    Counts stream host column (do pure (column + (← activity))) := by
  refine Writes.bind h fun n text htext ↦ Writes.pure ?_
  rw [List.append_nil, Text.cursor_of_not_mem htext.1, htext.2]

theorem emit {text : List Char} (h : '\r' ∉ text) :
    Counts stream host column (do pure (column + (← Act.emit stream text))) :=
  of_length (Writes.mono (Writes.emit text) fun {n written} hn ↦ by rw [hn.1, hn.2]; exact ⟨h, rfl⟩)

theorem write {text : List Char} (h : '\r' ∉ text) :
    Counts stream host column (do
      Act.write stream text
      pure (column + text.length)) := by
  refine Writes.bind (Writes.write text) fun _ written hwritten ↦ Writes.pure ?_
  rw [List.append_nil, hwritten, Text.cursor_of_not_mem h]

/-- What is done first without writing does not count. -/
theorem after {first : Act σ α} {second : α → Act σ Nat} {post : α → List Char → Prop}
    (hfirst : first.Writes stream host post) (hquiet : ∀ {a text}, post a text → text = [])
    (hsecond : ∀ a, post a [] → Counts stream host column (second a)) :
    Counts stream host column (first >>= second) := by
  refine Writes.bind hfirst fun a text hpost ↦ ?_
  obtain rfl := hquiet hpost
  exact hsecond a hpost

/-- A count goes on from where another ends. -/
theorem bind {first : Act σ Nat} {second : Nat → Act σ Nat}
    (hfirst : Counts stream host column first)
    (hsecond : ∀ middle, Counts stream host middle (second middle)) :
    Counts stream host column (first >>= second) := by
  refine Writes.bind hfirst fun middle text hmiddle ↦ Writes.mono (hsecond middle) ?_
  intro last later hlast
  rw [hlast, hmiddle, Text.cursor_append]

end Act.Counts

/-! ## Renderings -/

namespace Template

/-- Whether a carriage return stands in a piece otherwise than for itself: as the letter of a
directive, or in its argument. -/
def Piece.hidesReturn : Piece → Bool
  | directive letter argument => letter == '\r' || argument.any (·.raw.contains '\r')
  | dangling argument => argument.any (·.raw.contains '\r')
  | _ => false

theorem Piece.return_not_mem_raw {piece : Piece} (h : piece.hidesReturn = false) {a : Argument}
    (ha : piece.argument? = some a) : '\r' ∉ a.raw := by
  cases piece with
  | directive letter argument =>
    obtain rfl : argument = some a := ha
    simp only [hidesReturn, Option.any_some, Bool.or_eq_false_iff] at h
    simpa using h.2
  | dangling argument =>
    obtain rfl : argument = some a := ha
    simpa [hidesReturn] using h
  | _ => cases ha

/-- Whether a carriage return hides in a directive of a template. -/
def hidesReturn (template : List Char) : Bool := (pieces template).any Piece.hidesReturn

theorem hidesReturn_statusTemplate : hidesReturn statusTemplate = false := by decide +kernel

end Template

namespace Act.Counts

variable {job : Template.Job} {host : σ} {status : Nat → Act σ Nat}

theorem renderLiteral (c : Char) (column : Nat) :
    Counts job.stream host column (renderLiteral job c column) := by
  unfold Template.renderLiteral
  by_cases hreturn : c = '\r'
  · -- The only place where the count goes back, and the cursor with it.
    rw [if_pos hreturn]
    refine Writes.bind (Writes.write [c]) fun _ written hwritten ↦ ?_
    have hnoted : Writes job.stream host (modify ({ · with lineReset := true }))
        fun _ text ↦ text = [] :=
      Writes.of_move .returnLine _ (run_modify _) fun _ ↦ .of_quiet rfl (fun _ ↦ rfl) rfl
    refine Writes.bind hnoted fun _ later hlater ↦ Writes.pure ?_
    rw [hwritten, hlater, hreturn]
    rfl
  · rw [if_neg hreturn]
    exact write (by simpa using Ne.symm hreturn)

theorem renderUnknown {letter : Char} (hletter : letter ≠ '\r') (column : Nat) :
    Counts job.stream host column (renderUnknown job letter column) :=
  write (by simpa using hletter.symm)

theorem renderDangling {argument : Option Argument} (h : ∀ a ∈ argument, '\r' ∉ a.raw)
    (column : Nat) : Counts job.stream host column (renderDangling job argument column) := by
  unfold Template.renderDangling
  cases argument with
  | none => exact write (by decide)
  | some a =>
    -- The argument is echoed as it was written, between braces that count as well.
    have hraw : '\r' ∉ ['%'] ++ ('{' :: a.raw ++ ['}']) := by simp [h a rfl]
    refine Writes.bind (Writes.write ['%']) fun _ sign hsign ↦ ?_
    refine Writes.bind (Writes.write _) fun _ braces hbraces ↦ Writes.pure ?_
    rw [List.append_nil, hsign, hbraces, Text.cursor_of_not_mem hraw]
    simp
    omega

theorem renderPadding (argument : Option Argument) (column : Nat) :
    Counts job.stream host column (renderPadding job argument column) := by
  have hpad : ∀ target : Nat, Counts job.stream host column (do
      let padding := target - column
      if maxPadding < padding then MonadExcept.throw .crash
      Act.write job.stream (List.replicate padding ' ')
      Pure.pure (column + padding) : Act σ Nat) := by
    intro target
    dsimp only
    split
    · have hcrash : Writes job.stream host (MonadExcept.throw .crash : Act σ Unit)
          fun _ _ ↦ False :=
        Writes.throw _
      exact Writes.bind hcrash fun _ _ h ↦ h.elim
    · refine Writes.bind (Writes.write _) fun _ blanks hblanks ↦ Writes.pure ?_
      have hline : '\r' ∉ List.replicate (target - column) ' ' := by simp [List.mem_replicate]
      rw [List.append_nil, hblanks, Text.cursor_of_not_mem hline, List.length_replicate]
  unfold Template.renderPadding
  cases argument.bind (Text.word? ·.value) with
  | some n => exact hpad n
  | none => exact after Writes.width (fun h ↦ h) fun target _ ↦ hpad target

theorem renderTime {argument : Option Argument} (h : ∀ a ∈ argument, '\r' ∉ a.value)
    (column : Nat) : Counts job.stream host column (renderTime job argument column) := by
  refine Writes.get_bind fun s ↦ ?_
  have hpattern : '\r' ∉ (argument.map (·.value)).getD "%c".toList := by
    cases argument with
    | none => decide
    | some a => exact h a rfl
  split
  · rename_i text htext
    exact emit (Calendar.return_not_mem_timeText? hpattern htext)
  · exact Writes.throw _

variable [Host.SingleLine σ]

theorem renderDirective (hstatus : ∀ column, Counts job.stream host column (status column))
    (hword : '\r' ∉ (Host.localize host (if job.isWrite then "write" else "read")).toList)
    {letter : Char} (hletter : letter ≠ '\r') {argument : Option Argument}
    (h : ∀ a ∈ argument, '\r' ∉ a.value) (column : Nat) :
    Counts job.stream host column (renderDirective job status letter argument column) := by
  unfold Template.renderDirective
  split
  · exact hstatus column
  · exact emit (Text.return_not_mem_numeral _)
  · refine after (Writes.localized _) (fun hpost ↦ hpost.1) fun word hpost ↦ ?_
    rw [hpost.2]
    exact emit hword
  · exact after Writes.elapsed (fun hpost ↦ hpost) fun time _ ↦
      emit (Number.return_not_mem_fixed 0 _)
  · exact after Writes.elapsed (fun hpost ↦ hpost) fun _ _ ↦
      after (Writes.totalsLabels h) (fun hpost ↦ hpost.1) fun labels hpost ↦
        of_length (Writes.totals hpost.2)
  · exact renderTime h column
  · exact renderPadding argument column
  · exact renderUnknown hletter column

theorem renderPieces (hstatus : ∀ column, Counts job.stream host column (status column))
    (hword : '\r' ∉ (Host.localize host (if job.isWrite then "write" else "read")).toList)
    {row : List Piece} (hrow : ∀ piece ∈ row, piece.hidesReturn = false)
    (hvalues : ∀ piece ∈ row, ∀ a, piece.argument? = some a → a.value.Sublist a.raw)
    (column : Nat) : Counts job.stream host column (renderPieces job status row column) := by
  induction row generalizing column with
  | nil => exact Writes.pure (Text.cursor_nil column).symm
  | cons piece rest ih =>
    have hhidden := hrow piece List.mem_cons_self
    have hraw := fun a ha ↦ Piece.return_not_mem_raw hhidden (a := a) ha
    have hvalue : ∀ a, piece.argument? = some a → '\r' ∉ a.value := fun a ha hmem ↦
      hraw a ha ((hvalues piece List.mem_cons_self a ha).mem hmem)
    refine bind ?_ (ih (fun other hother ↦ hrow other (List.mem_cons_of_mem _ hother))
      fun other hother ↦ hvalues other (List.mem_cons_of_mem _ hother))
    cases piece with
    | literal c => exact renderLiteral c column
    | unclosed => exact write (by decide)
    | directive letter argument =>
      have hletter : letter ≠ '\r' := by
        rintro rfl
        simp [Piece.hidesReturn] at hhidden
      exact renderDirective hstatus hword hletter hvalue column
    | dangling argument => exact renderDangling hraw column

theorem render
    (hword : '\r' ∉ (Host.localize host (if job.isWrite then "write" else "read")).toList)
    {template : List Char} (h : hidesReturn template = false) (column : Nat) :
    Counts job.stream host column (render job template column) := by
  have hall {text : List Char} (htext : hidesReturn text = false) :
      ∀ piece ∈ pieces text, piece.hidesReturn = false := by
    simpa [Template.hidesReturn] using htext
  have hstatus (column : Nat) : Counts job.stream host column (renderStatus job column) :=
    renderPieces (renderUnknown (by decide)) hword (hall hidesReturn_statusTemplate)
      (fun _ hpiece _ ↦ value_sublist_raw_of_mem_pieces hpiece) column
  have htext : Counts job.stream host column (renderText job template column) :=
    renderPieces hstatus hword (hall h) (fun _ hpiece _ ↦ value_sublist_raw_of_mem_pieces hpiece)
      column
  refine Writes.bind htext fun last text hlast ↦ Writes.bind Writes.flush fun _ none hnone ↦
    Writes.pure ?_
  rw [List.append_nil, hnone, List.append_nil, hlast]

end Act.Counts

namespace Template

/-- Columns are counted right. A rendering that succeeds, of a template without hidden carriage
returns and on a host whose word for the direction has none, answers the column of the cursor after
what it wrote: the characters behind the last carriage return, or all of them and the columns
before. -/
theorem column_of_render [Host.SingleLine σ] {job : Job} {template : List Char}
    (htemplate : hidesReturn template = false) {column last : Nat} {s t : Scene σ}
    (hword : '\r' ∉ (Host.localize s.host (if job.isWrite then "write" else "read")).toList)
    (hrun : (render job template column).run.run s = (.ok last, t)) :
    ∃ text, last = Text.cursor column text ∧
      (∃ row, t = s.moves row ∧ row.flatMap (Move.output job.stream) = Text.bytes text) ∧
      (job.stream ≠ .stderr →
        t.world.contents job.stream = s.world.contents job.stream ++ Text.bytes text) := by
  obtain ⟨text, hlast, hwrote⟩ := Act.Counts.render hword htemplate column s t last rfl hrun
  exact ⟨text, hlast, hwrote.moves, hwrote.contents⟩

/-- Characters before and behind a status line, a number, totals with a label, blanks, a directive
that is not known, a brace that is never closed, and a percent sign at the end. -/
theorem column_of_every_piece :
    let template := "ab%cc%u%\x7bx\x7dT%\x7b16\x7d*%q%\x7bz%".toList
    let job : Job := { stream := .out, isWrite := true, checkpoint := 42 }
    let s : Scene ScriptedHost := { world := {}, host := {} }
    let outcome := (render job template 3).run.run s
    hidesReturn template = false ∧ '\r' ∉ (Host.localize s.host "write").toList ∧
      outcome.1 = .ok 22 ∧
      ∃ text, 22 = Text.cursor 3 text ∧
        outcome.2.world.contents .out = s.world.contents .out ++ Text.bytes text := by
  intro template job s outcome
  have htemplate : hidesReturn template = false := by decide +kernel
  have hword : '\r' ∉ (Host.localize s.host "write").toList := by decide +kernel
  have houtcome : outcome.1 = .ok 22 := by decide +kernel
  obtain ⟨text, hlast, -, hcontents⟩ :=
    column_of_render htemplate hword (Prod.ext houtcome rfl : outcome = (.ok 22, outcome.2))
  exact ⟨htemplate, hword, houtcome, text, hlast, hcontents (by decide)⟩

/-- A carriage return that hides in a directive is written, and the count goes on nevertheless. -/
example :
    let s : Scene ScriptedHost := { world := {}, host := {} }
    let job : Job := { stream := .out, isWrite := true, checkpoint := 1 }
    let outcome := (render job "ab%\r".toList 0).run.run s
    outcome.1 = .ok 4 ∧ outcome.2.world.contents .out = Text.bytes "ab%\r".toList ∧
      Text.cursor 0 "ab%\r".toList = 0 := by
  decide +kernel

end Template

end

end ProgressActions
