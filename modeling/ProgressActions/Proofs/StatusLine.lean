import ProgressActions.Proofs.Beside
import ProgressActions.Proofs.PassThrough
import ProgressActions.Proofs.SingleLine

/-!
# The built-in status line

The status directive stands for a line with the time, the seconds that have passed and the totals,
blanks up to the width of the window, and a carriage return. The line is rendered exactly where its
host has totals, its blanks can be written at once, and its stream has room for all of it. Then it is
stored as it should be, and nothing else is.
-/

namespace ProgressActions

open Template

/-! ## Texts that are spelled -/

/-- Two writes leave a sink as one write of both contents does. -/
theorem Sink.afterWrite_append (s : Sink) (first second : List UInt8) :
    s.afterWrite (first ++ second) = (s.afterWrite first).afterWrite second := by
  obtain ⟨width, room, flushFails⟩ := s
  cases room with
  | none => rfl
  | some n => simp [afterWrite, Nat.sub_sub]

variable {σ α β : Type}

/-- From one scene to another, a text has been stored on a stream and a host has taken the place of
the first. A carriage return may have been noted. Nothing else has happened that a rendering sees. -/
structure Scene.Spelled (stream : Stream) (text : List Char) (host : σ) (returns : Bool)
    (s t : Scene σ) : Prop where
  sink : t.world.sinks.get stream = (s.world.sinks.get stream).afterWrite (Text.bytes text)
  setting : t.world.setting = s.world.setting
  contents : t.world.contents stream = s.world.contents stream ++ Text.bytes text
  host : t.host = host
  lineReset : t.lineReset = (s.lineReset || returns)

namespace Scene.Spelled

variable {stream : Stream} {early late : List Char} {middle last : σ} {before after : Bool}
  {s t u : Scene σ}

theorem trans (hfirst : s.Spelled stream early middle before t)
    (hsecond : t.Spelled stream late last after u) :
    s.Spelled stream (early ++ late) last (before || after) u where
  sink := by rw [hsecond.sink, hfirst.sink, Text.bytes_append, Sink.afterWrite_append]
  setting := hsecond.setting.trans hfirst.setting
  contents := by rw [hsecond.contents, hfirst.contents, Text.bytes_append, List.append_assoc]
  host := hsecond.host
  lineReset := by rw [hsecond.lineReset, hfirst.lineReset, Bool.or_assoc]

theorem window (h : s.Spelled stream early middle before t) :
    t.world.window stream = s.world.window stream := by
  have hcolumns := congrArg World.columns h.setting
  change t.world.columns = s.world.columns at hcolumns
  unfold World.window
  rw [h.sink, hcolumns, Sink.width_afterWrite]

theorem passed (h : s.Spelled stream early middle before t) :
    t.world.passed = s.world.passed := by
  have hsetting := congrArg World.passed h.setting
  exact hsetting

/-- What stores nothing on the stream spells nothing. -/
theorem of_quiet (hsinks : t.world.sinks = s.world.sinks)
    (hsetting : t.world.setting = s.world.setting)
    (hcontents : t.world.contents stream = s.world.contents stream)
    (hreset : t.lineReset = (s.lineReset || after)) : s.Spelled stream [] t.host after t where
  sink := by
    rw [hsinks]
    obtain ⟨width, room, flushFails⟩ := s.world.sinks.get stream
    cases room <;> rfl
  setting := hsetting
  contents := by rw [hcontents, Text.bytes_nil, List.append_nil]
  host := rfl
  lineReset := hreset

/-- An event that stores nothing on the stream spells nothing. -/
theorem of_record {event : Event} (h : event.contentOn stream = [])
    (hworld : t.world = s.world.record event) (hreset : t.lineReset = s.lineReset) :
    s.Spelled stream [] t.host false t := by
  refine of_quiet ?_ ?_ ?_ ?_
  · rw [hworld, World.sinks_record]
  · rw [hworld]
    rfl
  · rw [hworld, World.contents_record, h, List.append_nil]
  · rw [hreset, Bool.or_false]

end Scene.Spelled

namespace Act

def Fails (s : Scene σ) (activity : Act σ α) : Prop := ∀ a t, activity.run.run s ≠ (.ok a, t)

/-- An activity spells a text from a scene: it succeeds exactly where the stream has room for the
text, and then the text is stored. -/
structure Spells (stream : Stream) (text : List Char) (a : α) (host : σ) (returns : Bool)
    (s : Scene σ) (activity : Act σ α) : Prop where
  fits : (s.world.sinks.get stream).fits (Text.bytes text) = true →
    ∃ t, activity.run.run s = (.ok a, t) ∧ s.Spelled stream text host returns t
  full : (s.world.sinks.get stream).fits (Text.bytes text) = false → activity.Fails s

theorem Fails.bind {first : Act σ α} {second : α → Act σ β} {s : Scene σ} (h : first.Fails s) :
    (first >>= second).Fails s := by
  intro b u hrun
  rw [run_bind] at hrun
  rcases hfirst : first.run.run s with ⟨cause | a, t⟩
  · rw [hfirst] at hrun
    cases hrun
  · exact h a t hfirst

namespace Spells

variable {stream : Stream} {early late : List Char} {a : α} {b : β} {middle last : σ}
  {before after : Bool} {first : Act σ α} {second : α → Act σ β} {s : Scene σ}

/-- A text that is spelled, and then another. -/
theorem append (hfirst : Spells stream early a middle before s first)
    (hsecond : ∀ t, s.Spelled stream early middle before t →
      Spells stream late b last after t (second a)) :
    Spells stream (early ++ late) b last (before || after) s (first >>= second) := by
  have hsplit := Sink.fits_append (s.world.sinks.get stream) (Text.bytes early) (Text.bytes late)
  rw [← Text.bytes_append] at hsplit
  constructor
  · intro hfits
    rw [hsplit, Bool.and_eq_true] at hfits
    obtain ⟨t, hrun, hearly⟩ := hfirst.fits hfits.1
    obtain ⟨u, hlater, hlate⟩ := (hsecond t hearly).fits (by rw [hearly.sink]; exact hfits.2)
    refine ⟨u, ?_, hearly.trans hlate⟩
    rw [run_bind, hrun]
    exact hlater
  · intro hfull
    rw [hsplit] at hfull
    cases hroom : (s.world.sinks.get stream).fits (Text.bytes early) with
    | false => exact (hfirst.full hroom).bind
    | true =>
      obtain ⟨t, hrun, hearly⟩ := hfirst.fits hroom
      rw [hroom, Bool.true_and, ← hearly.sink] at hfull
      intro c u hboth
      rw [run_bind, hrun] at hboth
      exact (hsecond t hearly).full hfull c u hboth

/-- A text without a note of a carriage return, and then another. -/
theorem bind (hfirst : Spells stream early a middle false s first)
    (hsecond : ∀ t, s.Spelled stream early middle false t →
      Spells stream late b last after t (second a)) :
    Spells stream (early ++ late) b last after s (first >>= second) :=
  append hfirst hsecond

/-- A text that is spelled, and then a failure. -/
theorem fails_bind (hfirst : Spells stream early a middle before s first)
    (hsecond : ∀ t, s.Spelled stream early middle before t → (second a).Fails t) :
    (first >>= second).Fails s := by
  cases hroom : (s.world.sinks.get stream).fits (Text.bytes early) with
  | false => exact (hfirst.full hroom).bind
  | true =>
    obtain ⟨t, hrun, hearly⟩ := hfirst.fits hroom
    intro c u hboth
    rw [run_bind, hrun] at hboth
    exact hsecond t hearly c u hboth

/-- An activity that succeeds without storing anything. -/
theorem of_ok {activity : Act σ α} {t : Scene σ} (hrun : activity.run.run s = (.ok a, t))
    (hquiet : s.Spelled stream [] t.host after t) : Spells stream [] a t.host after s activity where
  fits _ := ⟨t, hrun, hquiet⟩
  full hfull := by
    rw [Text.bytes_nil, Sink.fits_nil] at hfull
    cases hfull

theorem pure (a : α) (s : Scene σ) : Spells stream [] a s.host false s (Pure.pure a : Act σ α) :=
  of_ok (run_pure a s) (.of_quiet rfl rfl rfl (Bool.or_false _).symm)

theorem noteReturn (s : Scene σ) :
    Spells stream [] () s.host true s (modify ({ · with lineReset := true }) : Act σ Unit) :=
  of_ok (t := { s with lineReset := true }) (run_modify _ s)
    (.of_quiet rfl rfl rfl (Bool.or_true _).symm)

theorem width (s : Scene σ) :
    Spells stream [] (s.world.window stream) s.host false s (Act.width stream) :=
  of_ok (run_width stream s) (.of_quiet rfl rfl rfl (Bool.or_false _).symm)

theorem write (text : List Char) (s : Scene σ) :
    Spells stream text () s.host false s (Act.write stream text) := by
  have hrun := run_write stream text s
  have hfst : (s.world.write stream (Text.bytes text)).1 =
      (s.world.sinks.get stream).fits (Text.bytes text) := rfl
  rw [hfst] at hrun
  constructor
  · intro hfits
    rw [hfits] at hrun
    refine ⟨_, hrun, ?_, ?_, ?_, rfl, (Bool.or_false _).symm⟩
    · dsimp only
      rw [World.sinks_write]
      cases stream <;> rfl
    · exact World.AlikeBeside.setting_write _ _ _
    · dsimp only
      rw [World.contents_write, Sink.stored_of_fits hfits]
  · intro hfull a t hok
    rw [hrun, hfull] at hok
    cases hok

/-- A result may be turned into another. -/
theorem bind_pure {text : List Char} {host : σ} {returns : Bool}
    (h : Spells stream text a host returns s first) (f : α → β) :
    Spells stream text (f a) host returns s (first >>= fun a ↦ Pure.pure (f a)) := by
  have hrest (t : Scene σ) (ht : s.Spelled stream text host returns t) :
      Spells stream [] (f a) host false t (Pure.pure (f a)) := by
    rw [← ht.host]
    exact pure (f a) t
  have hboth : Spells stream (text ++ []) (f a) host (returns || false) s
      (first >>= fun a ↦ Pure.pure (f a)) := append h hrest
  rwa [List.append_nil, Bool.or_false] at hboth

theorem emit (text : List Char) (s : Scene σ) :
    Spells stream text text.length s.host false s (Act.emit stream text) :=
  bind_pure (write text s) fun _ ↦ text.length

/-- An activity that looks at its scene. -/
theorem get_bind {second : Scene σ → Act σ β} (h : Spells stream late b last after s (second s)) :
    Spells stream late b last after s (get >>= second) := by
  have hrun : (get >>= second).run.run s = (second s).run.run s := by
    rw [run_bind, run_get]
  constructor
  · rw [hrun]
    exact h.fits
  · unfold Fails
    rw [hrun]
    exact h.full

/-- Asking for totals spells nothing. -/
theorem ask (labels : Labels) (separator : Char) (s : Scene σ) :
    Spells stream [] () s.host false s (Act.record (.askTotals labels separator)) :=
  of_ok (t := { s with world := s.world.record (.askTotals labels separator) }) (run_record _ s)
    (.of_record rfl rfl rfl)

section

variable [Host σ]

theorem elapsed (s : Scene σ) :
    Spells stream [] (Host.measure s.world.passed s.host).1 (Host.measure s.world.passed s.host).2
      false s Act.elapsed :=
  of_ok (run_elapsed s) (.of_record rfl rfl rfl)

theorem totals {labels : Labels} {separator : Char} {text : String}
    (h : Host.totals s.host labels separator = .ok text) :
    Spells stream text.toList text.toList.length s.host false s
      (Act.totals stream labels separator) := by
  refine bind (ask labels separator s) fun t ht ↦ get_bind ?_
  rw [ht.host, h, ← ht.host]
  exact emit text.toList t

end

end Spells

/-- Totals that cannot be had cannot be shown. -/
theorem fails_totals [Host σ] {stream : Stream} {labels : Labels} {separator : Char} {s : Scene σ}
    {cause : Failure} (h : Host.totals s.host labels separator = .error cause) :
    (Act.totals stream labels separator).Fails s := by
  have hasked : Spells stream [] () s.host false s (Act.record (.askTotals labels separator)) :=
    .ask labels separator s
  refine hasked.fails_bind fun t ht ↦ ?_
  intro a u hrun
  rw [run_bind, run_get] at hrun
  dsimp only at hrun
  rw [ht.host, h] at hrun
  cases hrun

end Act

/-! ## The text of the line -/

namespace Template

/-- The pattern of the time in the built-in status line. -/
def statusPattern : List Char := "%Y-%m-%d %H:%M:%S".toList

def statusLabels : Labels := { read := "read", written := "wrote" }

/-- The pieces of the built-in status line before its totals. -/
def statusOpening : List Piece :=
  .directive 't' (some ⟨statusPattern, statusPattern⟩) ::
    (": ".toList.map .literal ++ .directive 'd' none :: "s, ".toList.map .literal)

theorem pieces_statusTemplate :
    pieces statusTemplate =
      statusOpening ++ [.directive 'T' (some ⟨"read,wrote".toList, "read,wrote".toList⟩),
        .directive '*' none, .literal '\r'] := by
  decide +kernel

open Calendar in
def statusTime : Option LocalTime → List Char
  | none => placeholder
  | some t =>
    numberText t .year .zero ++ '-' :: numberText t .month .zero ++
      '-' :: numberText t .day .zero ++ ' ' :: numberText t .hour .zero ++
      ':' :: numberText t .minute .zero ++ ':' :: numberText t .second .zero

/-- The pattern of the status line can always be written. -/
theorem timeText?_statusPattern (now : Option Calendar.LocalTime) :
    Calendar.timeText? statusPattern now = some (statusTime now) := by
  have hpattern : Calendar.parsePattern? statusPattern =
      some (Calendar.Item.isoDate ++ .literal ' ' :: Calendar.Item.clock) := by
    decide +kernel
  unfold Calendar.timeText?
  rw [hpattern]
  cases now with
  | none => rfl
  | some t =>
    simp [statusTime, Calendar.itemsText?, Calendar.itemText?, Calendar.Item.isoDate,
      Calendar.Item.clock]

section

variable {σ : Type} [Host σ]

def statusOpeningText (s : Scene σ) : List Char :=
  statusTime s.world.localTime? ++ ": ".toList ++
    (Host.measure s.world.passed s.host).1.toDouble.fixed 0 ++ "s, ".toList

/-- The host once the status line has looked at its timer, for the seconds and for the totals. -/
def statusHost (s : Scene σ) : σ :=
  (Host.measure s.world.passed (Host.measure s.world.passed s.host).2).2

/-- The text of the status line before its blanks, unless a host has no totals. -/
def statusText (s : Scene σ) : Except Failure (List Char) :=
  (Host.totals (statusHost s) statusLabels ',').map fun totals ↦
    statusOpeningText s ++ totals.toList

/-- The text depends on the clock and on the host only. -/
theorem statusText_congr {s t : Scene σ} (hsetting : t.world.setting = s.world.setting)
    (hhost : t.host = s.host) : statusText t = statusText s := by
  have hpassed := congrArg World.passed hsetting
  have hclock := congrArg World.localTime? hsetting
  change t.world.passed = s.world.passed at hpassed
  change t.world.localTime? = s.world.localTime? at hclock
  unfold statusText statusOpeningText statusHost
  rw [hpassed, hclock, hhost]

end

/-! ## Pieces of the line -/

section

open Act (Spells Fails)

variable {σ : Type} {job : Job} {status : Nat → Act σ Nat}

variable [Host σ]

theorem spells_literal {c : Char} (h : c ≠ '\r') (column : Nat) (s : Scene σ) :
    Spells job.stream [c] (column + 1) s.host false s
      (renderPiece job status (.literal c) column) := by
  rw [renderPiece, renderLiteral, if_neg h]
  exact .bind_pure (.write [c] s) fun _ ↦ column + 1

theorem spells_return (column : Nat) (s : Scene σ) :
    Spells job.stream ['\r'] 0 s.host true s (renderPiece job status (.literal '\r') column) := by
  rw [renderPiece, renderLiteral, if_pos rfl]
  have hnoted (t : Scene σ) (ht : s.Spelled job.stream ['\r'] s.host false t) :
      Spells job.stream [] 0 s.host true t (do
        modify ({ · with lineReset := true })
        pure 0) := by
    rw [← ht.host]
    exact .bind_pure (.noteReturn t) fun _ ↦ 0
  exact .bind (.write ['\r'] s) hnoted

/-- A row of literals spells itself. -/
theorem spells_literals {row : List Char} (h : '\r' ∉ row) (column : Nat) (s : Scene σ) :
    Spells job.stream row (column + row.length) s.host false s
      (renderPieces job status (row.map .literal) column) := by
  induction row generalizing column s with
  | nil => exact .pure column s
  | cons c rest ih =>
    obtain ⟨hc, hrest⟩ := List.ne_and_not_mem_of_not_mem_cons h
    change Spells job.stream ([c] ++ rest) _ _ _ s _
    refine .bind (spells_literal (Ne.symm hc) column s) fun t ht ↦ ?_
    rw [← ht.host, List.length_cons, Nat.add_comm rest.length 1, ← Nat.add_assoc]
    exact ih hrest (column + 1) t

theorem spells_time (column : Nat) (s : Scene σ) :
    Spells job.stream (statusTime s.world.localTime?)
      (column + (statusTime s.world.localTime?).length) s.host false s
      (renderPiece job status (.directive 't' (some ⟨statusPattern, statusPattern⟩)) column) := by
  refine Spells.get_bind ?_
  dsimp only [Option.map_some, Option.getD_some]
  rw [timeText?_statusPattern]
  exact .bind_pure (.emit _ s) (column + ·)

theorem spells_seconds (column : Nat) {s : Scene σ} {asked : Duration × σ}
    (h : Host.measure s.world.passed s.host = asked) :
    Spells job.stream (asked.1.toDouble.fixed 0) (column + (asked.1.toDouble.fixed 0).length) asked.2
      false s (renderPiece job status (.directive 'd' none) column) := by
  subst h
  refine Spells.bind (.elapsed s) fun t ht ↦ ?_
  rw [← ht.host]
  exact .bind_pure (.emit _ t) (column + ·)

/-- The labels of the built-in status line are in order. -/
theorem totalsLabels_status :
    totalsLabels (σ := σ) (some ⟨"read,wrote".toList, "read,wrote".toList⟩) = pure statusLabels := by
  have hsplit : splitLabels "read,wrote".toList = .ok ["read", "wrote"] := by decide +kernel
  unfold totalsLabels
  dsimp only
  rw [hsplit]
  rfl

/-- The totals of the built-in status line, with the time that has passed looked at first. -/
theorem renderPiece_totals (column : Nat) :
    renderPiece (σ := σ) job status
        (.directive 'T' (some ⟨"read,wrote".toList, "read,wrote".toList⟩)) column =
      (do
        let _ ← Act.elapsed
        let n ← Act.totals job.stream statusLabels ','
        pure (column + n)) := by
  change (do
    let _ ← Act.elapsed
    let labels ← totalsLabels (some ⟨"read,wrote".toList, "read,wrote".toList⟩)
    let n ← Act.totals job.stream labels ','
    pure (column + n)) = _
  rw [totalsLabels_status]
  rfl

theorem spells_totals (column : Nat) {s : Scene σ} {text : String}
    (h : Host.totals (Host.measure s.world.passed s.host).2 statusLabels ',' = .ok text) :
    Spells job.stream text.toList (column + text.toList.length)
      (Host.measure s.world.passed s.host).2 false s
      (renderPiece job status
        (.directive 'T' (some ⟨"read,wrote".toList, "read,wrote".toList⟩)) column) := by
  rw [renderPiece_totals]
  refine Spells.bind (.elapsed s) fun t ht ↦ ?_
  rw [← ht.host] at h ⊢
  exact .bind_pure (.totals h) (column + ·)

theorem fails_totals (column : Nat) {s : Scene σ} {cause : Failure}
    (h : Host.totals (Host.measure s.world.passed s.host).2 statusLabels ',' = .error cause) :
    (renderPiece job status
      (.directive 'T' (some ⟨"read,wrote".toList, "read,wrote".toList⟩)) column).Fails s := by
  rw [renderPiece_totals]
  have hasked : Spells job.stream [] (Host.measure s.world.passed s.host).1
      (Host.measure s.world.passed s.host).2 false s Act.elapsed := .elapsed s
  refine hasked.fails_bind fun t ht ↦ ?_
  rw [← ht.host] at h
  exact (Act.fails_totals h).bind

/-- The blanks up to the width of the window. -/
theorem renderPiece_padding (column : Nat) :
    renderPiece (σ := σ) job status (.directive '*' none) column =
      (do
        let target ← Act.width job.stream
        if maxPadding < target - column then throw .crash
        Act.write job.stream (List.replicate (target - column) ' ')
        pure (column + (target - column))) := rfl

/-- The padding spells blanks up to the width of the window. -/
theorem spells_padding (column : Nat) {s : Scene σ}
    (h : s.world.window job.stream - column ≤ maxPadding) :
    Spells job.stream (List.replicate (s.world.window job.stream - column) ' ')
      (column + (s.world.window job.stream - column)) s.host false s
      (renderPiece job status (.directive '*' none) column) := by
  rw [renderPiece_padding]
  refine Spells.bind (.width s) fun t ht ↦ ?_
  rw [if_neg (Nat.not_lt.2 h), ← ht.host]
  exact .bind_pure (.write _ t) fun _ ↦ _

theorem fails_padding (column : Nat) {s : Scene σ}
    (h : maxPadding < s.world.window job.stream - column) :
    (renderPiece job status (.directive '*' none) column).Fails s := by
  rw [renderPiece_padding]
  have hwidth : Spells job.stream [] (s.world.window job.stream) s.host false s
      (Act.width job.stream) := .width s
  refine hwidth.fails_bind fun t ht ↦ ?_
  rw [if_pos h]
  refine Fails.bind ?_
  intro a u hrun
  cases hrun

/-! ## The whole line -/

/-- The line opens with its time, its label and the seconds that have passed. -/
theorem spells_opening (column : Nat) (s : Scene σ) :
    Spells job.stream (statusOpeningText s) (column + (statusOpeningText s).length)
      (Host.measure s.world.passed s.host).2 false s
      (renderPieces job status statusOpening column) := by
  let time := statusTime s.world.localTime?
  let asked := Host.measure s.world.passed s.host
  let seconds := asked.1.toDouble.fixed 0
  have hline : Spells job.stream (time ++ (": ".toList ++ (seconds ++ "s, ".toList)))
      (column + time.length + 2 + seconds.length + 3) asked.2 false s
      (renderPieces job status statusOpening column) := by
    refine .bind (spells_time column s) fun t ht ↦ ?_
    rw [renderPieces_append]
    refine .bind (spells_literals (by decide) _ t) fun u hu ↦ ?_
    have hboth := ht.trans hu
    have hasked : Host.measure u.world.passed u.host = asked := by
      rw [hboth.passed, hboth.host, ht.host]
    refine .bind (spells_seconds (column + time.length + 2) hasked) fun v hv ↦ ?_
    rw [← hv.host]
    exact spells_literals (by decide) _ v
  have hcolumn : column + time.length + 2 + seconds.length + 3 =
      column + (statusOpeningText s).length := by
    simp [statusOpeningText, time, seconds, asked]
    omega
  rw [← List.append_assoc, ← List.append_assoc, hcolumn] at hline
  exact hline

/-- The blanks behind a text that begins in a column, and the way back to the first column. -/
def statusTail (width column : Nat) (text : List Char) : List Char :=
  List.replicate (width - (column + text.length)) ' ' ++ ['\r']

/-- The text of the line is what stands before the totals, and the totals. -/
theorem statusText_eq_ok_iff {s : Scene σ} {text : List Char} :
    statusText s = .ok text ↔ ∃ totals, Host.totals (statusHost s) statusLabels ',' = .ok totals ∧
      text = statusOpeningText s ++ totals.toList := by
  unfold statusText
  cases Host.totals (statusHost s) statusLabels ',' with
  | error cause => simp [Except.map]
  | ok totals => simp [Except.map, eq_comm]

/-- Behind the opening of the line, a host is looked at for the totals. -/
theorem statusHost_eq {s t : Scene σ}
    (h : s.Spelled job.stream (statusOpeningText s) (Host.measure s.world.passed s.host).2 false t) :
    (Host.measure t.world.passed t.host).2 = statusHost s := by
  rw [h.passed, h.host]
  rfl

/-- The status line spells its text, the blanks and one carriage return. -/
theorem spells_status (column : Nat) {s : Scene σ} {text : List Char} (htext : statusText s = .ok text)
    (hpadding : s.world.window job.stream - (column + text.length) ≤ maxPadding) :
    Spells job.stream (text ++ statusTail (s.world.window job.stream) column text) 0 (statusHost s)
      true s (renderStatus job column) := by
  obtain ⟨totals, htotals, rfl⟩ := statusText_eq_ok_iff.1 htext
  have hlength : column + (statusOpeningText s).length + totals.toList.length =
      column + (statusOpeningText s ++ totals.toList).length := by
    rw [List.length_append, Nat.add_assoc]
  unfold renderStatus
  rw [pieces_statusTemplate, renderPieces_append, List.append_assoc]
  refine .bind (spells_opening column s) fun t ht ↦ ?_
  rw [← statusHost_eq ht] at htotals
  refine .bind (spells_totals _ htotals) fun u hu ↦ ?_
  have hwindow : u.world.window job.stream = s.world.window job.stream := by
    rw [hu.window, ht.window]
  rw [← hwindow] at hpadding
  rw [← statusHost_eq ht, ← hu.host, hlength, ← hwindow]
  refine .bind (spells_padding _ hpadding) fun v hv ↦ ?_
  rw [← hv.host]
  exact .bind_pure (spells_return _ v) fun last ↦ last

/-- Without totals, or with more blanks than can be written at once, there is no line. -/
theorem fails_status (column : Nat) {s : Scene σ}
    (h : ∀ text, statusText s = .ok text →
      maxPadding < s.world.window job.stream - (column + text.length)) :
    (renderStatus job column).Fails s := by
  unfold renderStatus
  rw [pieces_statusTemplate, renderPieces_append]
  refine Spells.fails_bind (spells_opening column s) fun t ht ↦ ?_
  cases htotals : Host.totals (statusHost s) statusLabels ',' with
  | error cause =>
    rw [← statusHost_eq ht] at htotals
    exact (fails_totals _ htotals).bind
  | ok totals =>
    have hpadding := h _ (statusText_eq_ok_iff.2 ⟨totals, htotals, rfl⟩)
    rw [List.length_append, ← Nat.add_assoc] at hpadding
    rw [← statusHost_eq ht] at htotals
    refine Spells.fails_bind (spells_totals _ htotals) fun u hu ↦ ?_
    rw [← ht.window, ← hu.window] at hpadding
    exact (fails_padding _ hpadding).bind

/-! ## The template of a status line -/

/-- The template of a status line is its status directive, and then a flush. -/
theorem render_status (job : Job) (column : Nat) :
    render (σ := σ) job "%c".toList column =
      ((renderStatus job column >>= fun last ↦ pure last) >>= fun last ↦ do
        Act.flush job.stream
        pure last) := by
  have hpieces : pieces "%c".toList = [.directive 'c' none] := by decide +kernel
  unfold render renderText
  rw [hpieces]
  rfl

omit [Host σ] in
/-- A flush stores nothing. -/
theorem spelled_flush {stream : Stream} {text : List Char} {host : σ} {returns : Bool} {s t : Scene σ}
    (h : s.Spelled stream text host returns t) :
    s.Spelled stream text host returns { t with world := (t.world.flush stream).2 } := by
  refine { h with contents := ?_ }
  rw [World.flush, World.contents_record, h.contents]
  exact List.append_nil _

/-- A status line that is rendered with success is stored as it should be. -/
theorem of_run_status {column last : Nat} {s t : Scene σ}
    (h : (render job "%c".toList column).run.run s = (.ok last, t)) :
    ∃ text, statusText s = .ok text ∧ last = 0 ∧
      s.Spelled job.stream (text ++ statusTail (s.world.window job.stream) column text)
        (statusHost s) true t := by
  rw [render_status] at h
  by_cases hline : ∃ text, statusText s = .ok text ∧
      s.world.window job.stream - (column + text.length) ≤ maxPadding
  · obtain ⟨text, htext, hpadding⟩ := hline
    have hspells := (spells_status column htext hpadding).bind_pure fun last ↦ last
    cases hfits : (s.world.sinks.get job.stream).fits
        (Text.bytes (text ++ statusTail (s.world.window job.stream) column text)) with
    | false => exact absurd h ((hspells.full hfits).bind last t)
    | true =>
      obtain ⟨u, hrun, hspelled⟩ := hspells.fits hfits
      rw [Act.run_bind, hrun] at h
      dsimp only at h
      rw [Act.run_bind, Act.run_flush] at h
      cases hworks : (u.world.flush job.stream).1 with
      | false =>
        rw [hworks] at h
        cases h
      | true =>
        rw [hworks] at h
        cases h
        exact ⟨text, htext, rfl, spelled_flush hspelled⟩
  · have hnone (text : List Char) (htext : statusText s = .ok text) :
        maxPadding < s.world.window job.stream - (column + text.length) :=
      Nat.not_le.1 fun hpadding ↦ hline ⟨text, htext, hpadding⟩
    exact absurd h ((fails_status column hnone).bind.bind last t)

/-- A status line is rendered with success on a stream that has room for it. -/
theorem run_status_of_fits (column : Nat) {s : Scene σ} {text : List Char}
    (htext : statusText s = .ok text)
    (hpadding : s.world.window job.stream - (column + text.length) ≤ maxPadding)
    (hfits : (s.world.sinks.get job.stream).fits
      (Text.bytes (text ++ statusTail (s.world.window job.stream) column text)) = true)
    (hflush : (s.world.sinks.get job.stream).flushFails = false) :
    ∃ t, (render job "%c".toList column).run.run s = (.ok 0, t) ∧
      s.Spelled job.stream (text ++ statusTail (s.world.window job.stream) column text)
        (statusHost s) true t := by
  obtain ⟨t, hrun, hspelled⟩ :=
    ((spells_status column htext hpadding).bind_pure fun last ↦ last).fits hfits
  refine ⟨_, ?_, spelled_flush hspelled⟩
  have hworks : (t.world.flush job.stream).1 = true := by
    rw [World.flush, hspelled.sink, Sink.flushFails_afterWrite, hflush]
    rfl
  rw [render_status, Act.run_bind, hrun]
  dsimp only
  rw [Act.run_bind, Act.run_flush, hworks]
  rfl

/-- The text of the status line is on a single line. -/
theorem return_not_mem_statusText [Host.SingleLine σ] {s : Scene σ} {text : List Char}
    (h : statusText s = .ok text) : '\r' ∉ text := by
  obtain ⟨totals, htotals, rfl⟩ := statusText_eq_ok_iff.1 h
  have hlabels : statusLabels.IsSingleLine := ⟨by decide, by decide, by decide⟩
  have htime := Calendar.return_not_mem_timeText? (by decide)
    (timeText?_statusPattern s.world.localTime?)
  have hshown := Host.SingleLine.totals (statusHost s) hlabels (by decide) htotals
  simp [statusOpeningText, htime, hshown]

end

end Template

end ProgressActions
