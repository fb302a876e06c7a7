import ProgressActions.Proofs.Account
import ProgressActions.Proofs.Beside
import ProgressActions.Proofs.Lockstep
import ProgressActions.Proofs.Reports
import ProgressActions.Proofs.Scan

/-!
# Labels that cannot be split

Labels of totals that cannot be split cost a report and nothing else. A template is mended by leaving
them out, and its rendering is compared with that of the mended template, in step: both scan the same
pieces, come to the same columns and write the same bytes, and fail at the same place if they do. The one
difference is the report, between the question for the time and the question for totals.

Both renderings can only go the same way if the host answers as if it had not been told of the error.
Which hosts are alike in this respect is a relation that the host is free to choose.
-/

namespace ProgressActions

open Template

/-! ## Mended templates -/

namespace Template

/-- The piece without its argument, if this holds labels that cannot be split. -/
def Piece.mended (piece : Piece) : Piece :=
  if piece.complaint?.isSome then piece.bare else piece

/-- A template without the labels in it that cannot be split. -/
def mended (template : List Char) : List Char :=
  (pieces template).flatMap fun piece ↦ piece.mended.text

/-- Only pieces that are reported are mended. -/
theorem Piece.mended_of_eq_none {piece : Piece} (h : piece.complaint? = none) :
    piece.mended = piece := by
  simp [mended, h]

/-- Only labels of totals are complained about. -/
theorem Piece.exists_of_complaint? {piece : Piece} {message : String}
    (h : piece.complaint? = some message) :
    ∃ a e, piece = .directive 'T' (some a) ∧ splitLabels a.value = .error e ∧ message = e.message := by
  unfold complaint? at h
  split at h
  · rename_i a
    split at h
    · cases h
    · rename_i e hsplit
      exact ⟨a, e, rfl, hsplit, (Option.some.inj h).symm⟩
  · cases h

/-- A piece that is reported is mended by the totals without labels. -/
theorem Piece.mended_of_eq_some {piece : Piece} {message : String}
    (h : piece.complaint? = some message) : piece.mended = .directive 'T' none := by
  obtain ⟨a, e, rfl, -, -⟩ := exists_of_complaint? h
  simp [mended, h, bare]

/-- There is nothing to mend in a piece that is no directive with an argument. -/
theorem Piece.mended_of_ne {piece : Piece} (h : ∀ letter a, piece ≠ .directive letter (some a)) :
    piece.mended = piece := by
  refine mended_of_eq_none ?_
  cases hcomplaint : piece.complaint? with
  | none => rfl
  | some message =>
    obtain ⟨a, -, hpiece, -⟩ := exists_of_complaint? hcomplaint
    exact absurd hpiece (h 'T' a)

theorem Piece.complaint?_mended (piece : Piece) : piece.mended.complaint? = none := by
  cases h : piece.complaint? with
  | none => rw [mended_of_eq_none h, h]
  | some message => rw [mended_of_eq_some h]; rfl

/-- Where no brace closes there is nothing to mend. -/
theorem map_mended_of_neverCloses {template : List Char} (h : NeverCloses template) :
    (pieces template).map Piece.mended = pieces template := by
  conv_rhs => rw [← List.map_id (pieces template)]
  refine List.map_congr_left fun piece hpiece ↦ Piece.mended_of_ne ?_
  rintro letter a rfl
  exact directive_not_mem_of_neverCloses h letter a hpiece

/-- The scan of a mended template finds the same pieces, mended. -/
theorem pieces_mended (template : List Char) :
    pieces (mended template) = (pieces template).map Piece.mended := by
  unfold mended
  fun_induction pieces template with
  | case1 => simp
  | case2 rest hcapture ih =>
    -- Behind a brace that is not closed no directive has an argument, so nothing is mended there.
    have hnever := Argument.capture?_eq_none_iff.1 hcapture
    have htext : ((pieces rest).flatMap fun piece ↦ piece.mended.text) = rest := by
      rw [← List.flatMap_map, map_mended_of_neverCloses hnever, flatMap_text_pieces]
    rw [List.flatMap_cons, List.map_cons, htext, map_mended_of_neverCloses hnever]
    exact pieces_unclosed hcapture
  | case3 rest a hcapture =>
    obtain ⟨rfl, -⟩ := Argument.capture?_eq_some_iff.1 hcapture
    have hkept : (Piece.dangling (some a)).mended = .dangling (some a) := Piece.mended_of_ne (by simp)
    rw [List.flatMap_singleton, List.map_singleton, hkept]
    exact pieces_dangling hcapture
  | case4 rest a letter after hcapture hlength ih =>
    rw [List.flatMap_cons, List.map_cons, ← ih]
    cases hcomplaint : (Piece.directive letter (some a)).complaint? with
    | some message =>
      rw [Piece.mended_of_eq_some hcomplaint]
      exact pieces_directive (by decide) _
    | none =>
      obtain ⟨-, hraw, hvalue⟩ := Argument.capture?_eq_some_iff.1 hcapture
      rw [Piece.mended_of_eq_none hcomplaint]
      have hagain (later : List Char) :
          Argument.capture? (a.raw ++ '}' :: letter :: later) = some (a, letter :: later) :=
        Argument.capture?_eq_some_iff.2 ⟨rfl, hraw, hvalue⟩
      simpa [Piece.text, Argument.text] using pieces_argument (hagain _)
  | case5 =>
    have hkept : (Piece.dangling none).mended = .dangling none := Piece.mended_of_ne (by simp)
    rw [List.flatMap_singleton, List.map_singleton, hkept]
    exact pieces_percent
  | case6 letter rest hbrace ih =>
    have hkept : (Piece.directive letter none).mended = .directive letter none :=
      Piece.mended_of_ne (by simp)
    rw [List.flatMap_cons, List.map_cons, ← ih, hkept]
    exact pieces_directive hbrace _
  | case7 c rest hbrace hend hletter ih =>
    have hkept : (Piece.literal c).mended = .literal c := Piece.mended_of_ne (by simp)
    rw [List.flatMap_cons, List.map_cons, ← ih, hkept]
    exact pieces_literal (ne_percent hend hletter) _

/-- A mended template gives no cause for complaint. -/
theorem complaints_mended (template : List Char) : complaints (mended template) = [] := by
  rw [complaints, pieces_mended, List.filterMap_map]
  exact List.filterMap_eq_nil_iff.2 fun piece _ ↦ piece.complaint?_mended

/-- Inlining status lines and mending go together, as the built-in status line has nothing to mend. -/
theorem inlined_map_mended (row : List Piece) :
    inlined (row.map Piece.mended) = (inlined row).map Piece.mended := by
  have hstatus : (pieces statusTemplate).map Piece.mended = pieces statusTemplate := by decide +kernel
  induction row with
  | nil => rfl
  | cons piece rest ih =>
    rw [List.map_cons]
    obtain ⟨argument, rfl⟩ | hplain := piece.isStatus_or_not
    · have hkept : (Piece.directive 'c' argument).mended = .directive 'c' argument :=
        Piece.mended_of_eq_none rfl
      rw [hkept, inlined_cons_status, inlined_cons_status, ih, List.map_append, hstatus]
    · have hmended : ∀ argument, piece.mended ≠ .directive 'c' argument := by
        intro argument
        cases hcomplaint : piece.complaint? with
        | none => rw [Piece.mended_of_eq_none hcomplaint]; exact hplain argument
        | some message => rw [Piece.mended_of_eq_some hcomplaint]; simp
      rw [inlined_cons_of_ne hplain, inlined_cons_of_ne hmended, ih, List.map_cons]

/-- Inlining a status line adds no cause for complaint. -/
theorem filterMap_complaint?_inlined (row : List Piece) :
    (inlined row).filterMap Piece.complaint? = row.filterMap Piece.complaint? := by
  induction row with
  | nil => rfl
  | cons piece rest ih =>
    obtain ⟨argument, rfl⟩ | hplain := piece.isStatus_or_not
    · have hstatus : (pieces statusTemplate).filterMap Piece.complaint? = [] :=
        complaints_statusTemplate
      rw [inlined_cons_status, List.filterMap_append, hstatus, ih]
      rfl
    · rw [inlined_cons_of_ne hplain, List.filterMap_cons, List.filterMap_cons, ih]

end Template

/-! ## Reports in the trace -/

namespace Event

/-- What a host logs about an error leaves a line on the standard error, or nothing. -/
def logged (line : Option String) : List Event :=
  line.toList.map fun text ↦ .write .stderr (Text.bytes (Log.line "error" text))

/-- Two rows of events with a common past are the same but for reports: what has happened in the first
has happened in the second, in the same order, and each report stands between a question for the time and
the question for totals with the usual labels. What the host logs about it comes with it. -/
inductive SameButReports (past : List Event) : List String → List Event → List Event → Prop where
  | past : SameButReports past [] past past
  | same {messages : List String} {first second : List Event} (events : List Event) :
      SameButReports past messages first second →
      SameButReports past messages (first ++ events) (second ++ events)
  | report {messages : List String} {first second : List Event} (message : String)
      (line : Option String) :
      SameButReports past messages first second →
      SameButReports past (messages ++ [message])
        (first ++ .askElapsed :: .reportError message :: logged line ++ [.askTotals {} ','])
        (second ++ [.askElapsed, .askTotals {} ','])

/-- A line of the log stores nothing on the other streams. -/
theorem contents_logged {stream : Stream} (h : stream ≠ .stderr) (line : Option String) :
    contents stream (logged line) = [] := by
  cases line with
  | none => rfl
  | some text => simp [logged, contents, contentOn, h.symm]

/-- Reports store nothing, but for what is logged about them. -/
theorem SameButReports.contents_eq {past first second : List Event} {messages : List String}
    (h : SameButReports past messages first second) {stream : Stream} (hstream : stream ≠ .stderr) :
    contents stream second = contents stream first := by
  induction h with
  | past => rfl
  | same events _ ih => rw [contents_append, contents_append, ih]
  | report message line _ ih =>
    have hlogged := contents_logged hstream line
    simp_all [contents, contentOn]

end Event

namespace World

theorem events_noted (line : Option String) (w : World) :
    (Act.noted line w).events = w.events ++ Event.logged line := by
  cases line with
  | none => exact (List.append_nil _).symm
  | some text => rw [Act.noted, log_eq, events_record]; rfl

theorem forget_noted (line : Option String) (w : World) : (Act.noted line w).forget = w.forget := by
  cases line with
  | none => rfl
  | some text => rw [Act.noted, log_eq]; rfl

theorem write_eq_forget (w : World) (stream : Stream) (content : List UInt8) :
    w.write stream content =
      ((w.forget.write stream content).1, (w.forget.write stream content).2.preceded w.trace) := by
  conv_lhs => rw [← preceded_forget w, write_preceded]

end World

/-! ## Scenes -/

/-- A relation between hosts that answer alike in a rendering, whatever errors the first has been told
of. -/
structure Host.Overlooks {σ : Type} [Host σ] (alike : σ → σ → Prop) : Prop where
  refl : ∀ a, alike a a
  localize_eq : ∀ {a b}, alike a b → Host.localize b = Host.localize a
  totals_eq : ∀ {a b}, alike a b → Host.totals b = Host.totals a
  measure : ∀ {a b}, alike a b → ∀ moment,
    (Host.measure moment b).1 = (Host.measure moment a).1 ∧
      alike (Host.measure moment a).2 (Host.measure moment b).2
  noteError : ∀ {a b}, alike a b → ∀ message, alike (Host.noteError message a).2 b

/-- A steady host answers the same, however many errors it has counted. -/
theorem Host.Steady.overlooks {σ : Type} [Host σ] [Host.Steady σ] :
    Host.Overlooks fun a b : σ ↦ timed b = timed a where
  refl _ := rfl
  localize_eq h := localize_eq (core_eq_of_timed_eq h)
  totals_eq h := totals_eq h
  measure h moment := measure_eq (core_eq_of_timed_eq h) moment
  noteError {a _} h message := h.trans (timed_noteError message a).symm

variable {σ : Type}

/-- Two scenes that differ by reports: some errors have been reported in the first, and nothing else. -/
structure Scene.DifferByReports (alike : σ → σ → Prop) (past : List Event) (messages : List String)
    (s t : Scene σ) : Prop where
  world : t.world.forget = s.world.forget
  lineReset : t.lineReset = s.lineReset
  host : alike s.host t.host
  events : Event.SameButReports past messages s.world.events t.world.events

namespace Scene

variable {alike : σ → σ → Prop} {past : List Event} {messages : List String} {s t : Scene σ}

namespace DifferByReports

theorem sinks (hst : s.DifferByReports alike past messages t) : t.world.sinks = s.world.sinks := by
  have hforgot := congrArg World.sinks hst.world
  exact hforgot

theorem columns (hst : s.DifferByReports alike past messages t) :
    t.world.columns = s.world.columns := by
  have hforgot := congrArg World.columns hst.world
  exact hforgot

theorem passed (hst : s.DifferByReports alike past messages t) : t.world.passed = s.world.passed := by
  have hforgot := congrArg World.passed hst.world
  exact hforgot

theorem localTime? (hst : s.DifferByReports alike past messages t) :
    t.world.localTime? = s.world.localTime? := by
  have hforgot := congrArg World.localTime? hst.world
  exact hforgot

/-- The same happens in both. -/
theorem record (hst : s.DifferByReports alike past messages t) (event : Event) :
    { s with world := s.world.record event : Scene σ }.DifferByReports alike past messages
      { t with world := t.world.record event } where
  world := hst.world
  lineReset := hst.lineReset
  host := hst.host
  events := by
    rw [World.events_record, World.events_record]
    exact hst.events.same [event]

end DifferByReports

/-- What is done on a stream is done in both scenes. -/
theorem keeps_differByReports (stream : Stream) :
    Scene.Keeps stream (DifferByReports alike past messages) where
  write text s t hst := by
    rw [Act.run_write, Act.run_write, World.write_eq_forget s.world, World.write_eq_forget t.world,
      hst.world]
    refine ⟨rfl, rfl, hst.lineReset, hst.host, ?_⟩
    rw [World.events_preceded, World.events_preceded]
    exact hst.events.same _
  flush s t hst := by
    rw [Act.run_flush, Act.run_flush]
    unfold World.flush
    rw [hst.sinks]
    exact ⟨rfl, hst.record _⟩
  width s t hst := by
    rw [Act.run_width, Act.run_width, hst.sinks, hst.columns]
    exact ⟨rfl, hst⟩
  noteReturn s t hst := ⟨rfl, hst.world, rfl, hst.host, hst.events⟩
  localTime?_eq hst := hst.localTime?

variable [Host σ]

/-- A host that overlooks its reports answers the same in both scenes. -/
theorem concurs_differByReports (h : Host.Overlooks alike) (stream : Stream) :
    Scene.Concurs stream (DifferByReports alike past messages)
      (DifferByReports (σ := σ) alike past messages) where
  keeps_near := keeps_differByReports stream
  keeps_close := keeps_differByReports stream
  near_of_close hst := hst
  localize_eq hst := h.localize_eq hst.host
  totals_eq hst := h.totals_eq hst.host
  elapsed s t hst := by
    obtain ⟨htime, hhost⟩ := h.measure hst.host s.world.passed
    rw [Act.run_elapsed, Act.run_elapsed, hst.passed, htime]
    exact ⟨rfl, { hst.record .askElapsed with host := hhost }⟩
  record event s t hst := ⟨rfl, hst.record event⟩

/-- An error is reported in the first, between the same two questions in both. -/
theorem DifferByReports.report (h : Host.Overlooks alike)
    (hst : s.DifferByReports alike past messages t) (message : String) :
    (((s.move .askElapsed).move (.reportError message)).move (.askTotals {} ',')).DifferByReports alike
      past (messages ++ [message]) ((t.move .askElapsed).move (.askTotals {} ',')) where
  world := by
    have hnoted := World.forget_noted (Host.noteError message (s.move .askElapsed).host).1
      ((s.world.record .askElapsed).record (.reportError message))
    exact hst.world.trans hnoted.symm
  lineReset := hst.lineReset
  host := by
    have hmeasured := (h.measure hst.host s.world.passed).2
    have hhost : (t.move .askElapsed).host = (Host.measure s.world.passed t.host).2 := by
      rw [← hst.passed]
      rfl
    rw [← hhost] at hmeasured
    exact h.noteError hmeasured message
  events := by
    simp only [move, World.events_record, World.events_noted]
    simpa using hst.events.report message _

end Scene

/-! ## Renderings -/

namespace Template

variable [Host σ] {alike : σ → σ → Prop} {past : List Event} {messages : List String} {job : Job}
  {s t : Scene σ}

/-- A directive with labels that cannot be split does what it does without them, apart from the report. -/
theorem run_renderPiece_of_complaint (h : Host.Overlooks alike) {status : Nat → Act σ Nat}
    {piece : Piece} {message : String} (hcomplaint : piece.complaint? = some message) (column : Nat)
    (hst : s.DifferByReports alike past messages t) :
    let first := (renderPiece job status piece column).run.run s
    let second := (renderPiece job status piece.mended column).run.run t
    second.1 = first.1 ∧ first.2.DifferByReports alike past (messages ++ [message]) second.2 := by
  obtain ⟨a, e, rfl, hsplit, rfl⟩ := Piece.exists_of_complaint? hcomplaint
  -- Both directives end in the same activity, once the question for totals has been asked.
  let shown : Act σ Nat := do pure (column + (← Act.showTotals job.stream {} ','))
  have hfirst : (renderPiece job status (.directive 'T' (some a)) column).run.run s =
      shown.run.run (((s.move .askElapsed).move (.reportError e.message)).move (.askTotals {} ',')) := by
    have hlabels : totalsLabels (σ := σ) (some a) =
        Act.reportError e.message >>= fun _ ↦ pure {} := by
      simp only [totalsLabels, hsplit]
    simp only [renderPiece, renderDirective, hlabels, bind_assoc, pure_bind]
    rw [Act.run_bind, Act.run_elapsed]
    dsimp only
    rw [Act.run_bind, Act.run_reportError]
    rfl
  have hsecond : (renderPiece job status (.directive 'T' none) column).run.run t =
      shown.run.run ((t.move .askElapsed).move (.askTotals {} ',')) := by
    simp only [renderPiece, renderDirective, totalsLabels, pure_bind]
    rw [Act.run_bind, Act.run_elapsed]
    rfl
  have hshow : Act.Lockstep (Scene.DifferByReports alike past (messages ++ [e.message]))
      (Scene.DifferByReports alike past (messages ++ [e.message])) shown :=
    .bind (.showTotals (Scene.concurs_differByReports h job.stream) {} ',') fun n ↦ .pure _
  rw [Piece.mended_of_eq_some hcomplaint, hfirst, hsecond]
  exact hshow _ _ (hst.report h e.message)

/-- A piece and what is left of it when it is mended do the same, apart from the report. -/
theorem run_renderPiece_mended (h : Host.Overlooks alike) (job : Job) (piece : Piece) (column : Nat)
    (hst : s.DifferByReports alike past messages t) :
    let first := (renderPiece job (renderUnknown job 'c') piece column).run.run s
    let second := (renderPiece job (renderUnknown job 'c') piece.mended column).run.run t
    second.1 = first.1 ∧
      first.2.DifferByReports alike past (messages ++ piece.complaint?.toList) second.2 := by
  cases hcomplaint : piece.complaint? with
  | some message => exact run_renderPiece_of_complaint h hcomplaint column hst
  | none =>
    have hsame : Act.Lockstep (Scene.DifferByReports alike past messages)
        (Scene.DifferByReports alike past messages)
        (renderPiece (σ := σ) job (renderUnknown job 'c') piece column) :=
      .renderPiece (Scene.concurs_differByReports h job.stream)
        (.renderUnknown (Scene.keeps_differByReports job.stream) 'c')
        (fun message hmessage ↦ by rw [hcomplaint] at hmessage; cases hmessage) column
    rw [Piece.mended_of_eq_none hcomplaint, Option.toList_none, List.append_nil]
    exact hsame s t hst

/-- The errors that the pieces of a row are reported for, as far as the row is rendered. -/
def reported (job : Job) (row : List Piece) (column : Nat) (s : Scene σ) : List String :=
  (account job row column s).filterMap fun entry ↦ entry.piece.complaint?

theorem reported_cons (job : Job) (piece : Piece) (rest : List Piece) (column : Nat) (s : Scene σ) :
    reported job (piece :: rest) column s = piece.complaint?.toList ++
      match (renderPiece job (renderUnknown job 'c') piece column).run.run s with
      | (.ok last, next) => reported job rest last next
      | (.error _, _) => [] := by
  unfold reported
  rw [account]
  rcases (renderPiece job (renderUnknown job 'c') piece column).run.run s with ⟨cause | last, next⟩ <;>
    cases hcomplaint : piece.complaint? <;> simp [hcomplaint]

/-- A row of pieces and the mended row are rendered in step. -/
theorem run_renderPieces_mended (h : Host.Overlooks alike) (job : Job) (row : List Piece) (column : Nat)
    (hst : s.DifferByReports alike past messages t) :
    let first := (renderPieces job (renderUnknown job 'c') row column).run.run s
    let second := (renderPieces job (renderUnknown job 'c') (row.map Piece.mended) column).run.run t
    second.1 = first.1 ∧
      first.2.DifferByReports alike past (messages ++ reported job row column s) second.2 := by
  induction row generalizing column messages s t with
  | nil =>
    rw [reported, account, List.filterMap_nil, List.append_nil]
    exact ⟨rfl, hst⟩
  | cons piece rest ih =>
    obtain ⟨houtcome, hafter⟩ := run_renderPiece_mended h job piece column hst
    rw [List.map_cons, renderPieces, renderPieces, Act.run_bind, Act.run_bind, reported_cons]
    -- Both pieces come to the same outcome, so two of the four cases remain.
    rcases hs : (renderPiece job (renderUnknown job 'c') piece column).run.run s
      with ⟨cause | last, next⟩ <;>
      rcases ht : (renderPiece job (renderUnknown job 'c') piece.mended column).run.run t
        with ⟨other | end_, late⟩ <;>
      rw [hs, ht] at houtcome hafter <;> cases houtcome
    · exact ⟨rfl, by simpa using hafter⟩
    · rw [← List.append_assoc]
      exact ih last hafter

/-- No more is reported than there is cause for, and all of it unless the rendering ends early. -/
theorem reported_prefix (job : Job) (row : List Piece) (column : Nat) (s : Scene σ) :
    reported job row column s <+: row.filterMap Piece.complaint? ∧
      (((renderPieces job (renderUnknown job 'c') row column).run.run s).1.isOk = true →
        reported job row column s = row.filterMap Piece.complaint?) := by
  induction row generalizing column s with
  | nil => exact ⟨List.prefix_refl _, fun _ ↦ rfl⟩
  | cons piece rest ih =>
    have hcause : (piece :: rest).filterMap Piece.complaint? =
        piece.complaint?.toList ++ rest.filterMap Piece.complaint? := by
      cases hcomplaint : piece.complaint? <;> simp [hcomplaint]
    rw [reported_cons, hcause, renderPieces, Act.run_bind]
    rcases (renderPiece job (renderUnknown job 'c') piece column).run.run s with ⟨cause | last, next⟩
    · exact ⟨by simp, by simp [Except.isOk, Except.toBool]⟩
    · obtain ⟨hbegins, hall⟩ := ih last next
      exact ⟨(List.prefix_append_right_inj _).2 hbegins, fun hok ↦ congrArg _ (hall hok)⟩

/-- A template and the mended template are rendered in step. -/
theorem run_render_mended (h : Host.Overlooks alike) (job : Job) (template : List Char) (column : Nat)
    (hst : s.DifferByReports alike past messages t) :
    let first := (render job template column).run.run s
    let second := (render job (mended template) column).run.run t
    second.1 = first.1 ∧
      first.2.DifferByReports alike past
        (messages ++ reported job (inlined (pieces template)) column s) second.2 := by
  obtain ⟨houtcome, hafter⟩ := run_renderPieces_mended h job (inlined (pieces template)) column hst
  unfold render renderText
  rw [renderPieces_inlined, renderPieces_inlined, pieces_mended, inlined_map_mended, Act.run_bind,
    Act.run_bind]
  rcases hs : (renderPieces job (renderUnknown job 'c') (inlined (pieces template)) column).run.run s
    with ⟨cause | last, next⟩ <;>
    rcases ht : (renderPieces job (renderUnknown job 'c')
      ((inlined (pieces template)).map Piece.mended) column).run.run t with ⟨other | end_, late⟩ <;>
    rw [hs, ht] at houtcome hafter <;> cases houtcome
  · exact ⟨rfl, hafter⟩
  · exact Act.Lockstep.bind (Scene.keeps_differByReports job.stream).flush (fun _ ↦ .pure last) _ _ hafter

/-- A template that gives no cause for complaint has no error reported, on any host. -/
theorem selected_isReport_render (job : Job) {template : List Char} (h : complaints template = [])
    (column : Nat) (s : Scene σ) :
    ((render job template column).run.run s).2.world.selected Event.isReport =
      s.world.selected Event.isReport := by
  have hmade : Act.MadeOf (Move.ReportsOnly []) (render (σ := σ) job template column) :=
    .render (Move.renders_reportsOnly [] job.stream)
      (fun message hmessage ↦ by rw [h] at hmessage; exact hmessage) column
  obtain ⟨row, hrow, hrun⟩ := hmade.exists_moves s
  have hnone : (row.filterMap Move.call?).filter Event.isReport = [] := by
    refine List.filter_eq_nil_iff.2 fun event hevent ↦ ?_
    obtain ⟨m, hm, hcall⟩ := List.mem_filterMap.1 hevent
    have honly := hrow m hm
    cases m <;> cases hcall <;> first | exact Bool.false_ne_true | exact (List.not_mem_nil honly).elim
  rw [hrun, Scene.selected_moves Event.calls_isReport, hnone, List.append_nil]

/-- Labels that cannot be split cost a report and nothing else. A template is compared with the mended
one, where directives for totals have lost the arguments that cannot be split. On every host that answers
alike whatever errors it has been told of, both renderings come to the same column, or fail alike, take
the same note of carriage returns and store the same. They make the same calls on the host, in the same
order, but for the reports: one for each of these directives that is reached, with the error that quotes
its argument, between the question for the time and the question for totals. The mended template has
nothing reported, and neither has a template without such directives, on any host at all. -/
theorem render_mended (job : Job) (template : List Char) (column : Nat) (s : Scene σ) :
    let run := (render job template column).run.run s
    let other := (render job (mended template) column).run.run s
    let messages := reported job (inlined (pieces template)) column s
    (pieces template).flatMap Piece.text = template ∧
    messages <+: complaints template ∧
    (run.1.isOk = true → messages = complaints template) ∧
    (complaints template = [] →
      run.2.world.selected Event.isReport = s.world.selected Event.isReport) ∧
    other.2.world.selected Event.isReport = s.world.selected Event.isReport ∧
    ∀ alike : σ → σ → Prop, Host.Overlooks alike →
      other.1 = run.1 ∧ other.2.lineReset = run.2.lineReset ∧
      other.2.world.forget = run.2.world.forget ∧ alike run.2.host other.2.host ∧
      (job.stream ≠ .stderr →
        other.2.world.contents job.stream = run.2.world.contents job.stream) ∧
      Event.SameButReports s.world.events messages run.2.world.events other.2.world.events := by
  intro run other messages
  obtain ⟨hbegins, hall⟩ := reported_prefix job (inlined (pieces template)) column s
  rw [filterMap_complaint?_inlined] at hbegins hall
  refine ⟨flatMap_text_pieces template, hbegins, fun hok ↦ hall ?_,
    fun h ↦ selected_isReport_render job h column s,
    selected_isReport_render job (complaints_mended template) column s, fun alike h ↦ ?_⟩
  · have hrun : run = (render job template column).run.run s := rfl
    unfold render renderText at hrun
    rw [renderPieces_inlined, Act.run_bind] at hrun
    rcases hrow : (renderPieces job (renderUnknown job 'c') (inlined (pieces template)) column).run.run s
      with ⟨cause | last, next⟩
    · rw [hrow] at hrun
      rw [hrun] at hok
      cases hok
    · rfl
  · have hsame : s.DifferByReports alike s.world.events [] s := ⟨rfl, rfl, h.refl s.host, .past⟩
    obtain ⟨houtcome, hafter⟩ := run_render_mended h job template column hsame
    exact ⟨houtcome, hafter.lineReset, hafter.world, hafter.host, hafter.events.contents_eq,
      hafter.events⟩

/-- Too many labels, a quote that is not closed, and a label that is fine, on an archive that logs and
counts the two errors. -/
theorem render_of_malformed_labels :
    let template := "<%\x7ba,b,c,d\x7dT|%\x7b'\x7dT|%\x7bin\x7dT>".toList
    let job : Job := { stream := .out, isWrite := true, checkpoint := 3 }
    let s : Scene Archive :=
      { world := {}
        host := { archiveName := "demo.tar", mode := .write, recordSize := 512, site := {} } }
    let run := (render job template 2).run.run s
    let other := (render job "<%T|%T|%\x7bin\x7dT>".toList 2).run.run s
    Host.Overlooks (fun a b : Archive ↦ b.timed = a.timed) ∧
      run.1.isOk = true ∧ other.1 = run.1 ∧
      other.2.world.contents .out = run.2.world.contents .out ∧
      Event.SameButReports s.world.events
        ["too many words in 'a,b,c,d'", "cannot split string ''': missing closing quote"]
        run.2.world.events other.2.world.events ∧
      run.2.host.errors = 2 ∧ other.2.host.errors = 0 := by
  intro template job s run other
  have hmended : mended template = "<%T|%T|%\x7bin\x7dT>".toList := by decide +kernel
  have hcauses : complaints template =
      ["too many words in 'a,b,c,d'", "cannot split string ''': missing closing quote"] := by
    decide +kernel
  have hok : run.1.isOk = true := by decide +kernel
  obtain ⟨-, -, hall, -, -, hcompare⟩ := render_mended job template 2 s
  have hlaw := hcompare (fun a b ↦ b.timed = a.timed) Host.Steady.overlooks
  rw [hmended, hall hok, hcauses] at hlaw
  obtain ⟨houtcome, -, -, -, hcontents, hevents⟩ := hlaw
  exact ⟨Host.Steady.overlooks, hok, houtcome, hcontents (by decide), hevents, by decide +kernel,
    by decide +kernel⟩

end Template

end ProgressActions
