import ProgressActions.Proofs.Firing
import ProgressActions.Proofs.Isolation
import ProgressActions.Proofs.StatusLine
import ProgressActions.Proofs.TerminalRelease

/-!
# Status lines that overwrite each other

A terminal shows what it is sent on a line: characters overwrite the cells under the cursor, and a
carriage return takes the cursor back to the first column. A status line is as wide as the window, so
it leaves nothing of what stood on the line before, and the cursor is where the next one begins. So an
engine at work on the status line alone keeps the line ready for the next firing, whatever is called
in between.
-/

namespace ProgressActions

open Template

namespace Text

/-- The bytes of a text spell it. -/
theorem ofBytes?_bytes (text : List Char) : ofBytes? (bytes text) = some text := by
  have hencoded : (⟨(bytes text).toArray⟩ : ByteArray) = text.utf8Encode :=
    ByteArray.ext List.data_toByteArray.symm
  have hvalid : text.utf8Encode.IsValidUTF8 := ⟨text, rfl⟩
  unfold ofBytes? String.fromUTF8?
  rw [hencoded, dif_pos hvalid]
  exact congrArg some String.toList_ofList

end Text

/-! ## A line on a screen -/

/-- A line on a screen, and the column that the cursor is on. -/
structure ScreenLine where
  cells : List Char := []
  cursor : Nat := 0
  deriving DecidableEq, Repr

namespace ScreenLine

/-- A carriage return takes the cursor to the first column. Any other character overwrites the cell
under the cursor, which moves on. -/
def put (l : ScreenLine) (c : Char) : ScreenLine :=
  if c = '\r' then { l with cursor := 0 }
  else
    { cells :=
        l.cells.take l.cursor ++ List.replicate (l.cursor - l.cells.length) ' ' ++
          c :: l.cells.drop (l.cursor + 1)
      cursor := l.cursor + 1 }

def feed (text : List Char) (l : ScreenLine) : ScreenLine := text.foldl put l

/-- The line after some bytes, if they are the bytes of a text. -/
def read (content : List UInt8) (l : ScreenLine) : Option ScreenLine :=
  (Text.ofBytes? content).map fun text ↦ l.feed text

theorem feed_append (first second : List Char) (l : ScreenLine) :
    l.feed (first ++ second) = (l.feed first).feed second :=
  List.foldl_append

theorem feed_return (l : ScreenLine) : l.feed ['\r'] = { l with cursor := 0 } := rfl

/-- The line reads the encoding of a text as the text. -/
theorem read_bytes (text : List Char) (l : ScreenLine) :
    l.read (Text.bytes text) = some (l.feed text) := by
  rw [read, Text.ofBytes?_bytes, Option.map_some]

/-- A character takes the place of the one under the cursor. -/
theorem put_of_ne {c : Char} (h : c ≠ '\r') (front old : List Char) :
    put ⟨front ++ old, front.length⟩ c = ⟨front ++ [c] ++ old.tail, (front ++ [c]).length⟩ := by
  have hdrop : (front ++ old).drop (front.length + 1) = old.tail := by
    rw [← List.drop_drop, List.drop_left, List.drop_one]
  rw [put, if_neg h]
  simp [hdrop]

/-- A text without a carriage return overwrites as many cells as it has characters. -/
theorem feed_of_not_mem {text : List Char} (h : '\r' ∉ text) (front old : List Char) :
    feed text ⟨front ++ old, front.length⟩ =
      ⟨front ++ text ++ old.drop text.length, (front ++ text).length⟩ := by
  induction text generalizing front old with
  | nil => simp [feed]
  | cons c rest ih =>
    obtain ⟨hc, hrest⟩ := List.ne_and_not_mem_of_not_mem_cons h
    have hlater := ih hrest (front ++ [c]) old.tail
    rw [← put_of_ne (Ne.symm hc), List.append_assoc front [c] rest, List.drop_tail] at hlater
    exact hlater

/-- A line of some width at most, with the cursor on its first column. -/
structure IsReady (width : Nat) (l : ScreenLine) : Prop where
  cursor : l.cursor = 0
  cells : l.cells.length ≤ width

/-- A row of characters that is as wide as the line leaves nothing of what stood there. -/
theorem feed_line {row : List Char} (h : '\r' ∉ row) {l : ScreenLine} (hready : l.IsReady row.length) :
    l.feed (row ++ ['\r']) = ⟨row, 0⟩ := by
  obtain ⟨cells, cursor⟩ := l
  obtain rfl : cursor = 0 := hready.cursor
  have hrow := feed_of_not_mem h [] cells
  have hgone : cells.drop row.length = [] := List.drop_eq_nil_of_le hready.cells
  rw [hgone, List.nil_append, List.append_nil] at hrow
  rw [feed_append, feed_return]
  exact congrArg (fun l : ScreenLine ↦ { l with cursor := 0 }) hrow

/-- Bytes of a text that leaves each line ready that was ready before. -/
def LeavesReady (width : Nat) (content : List UInt8) : Prop :=
  ∃ text, content = Text.bytes text ∧
    ∀ l : ScreenLine, l.IsReady width → (l.feed text).IsReady width

namespace LeavesReady

variable {width : Nat} {first second : List UInt8}

theorem nil : LeavesReady width [] := ⟨[], rfl, fun _ hready ↦ hready⟩

theorem append (hfirst : LeavesReady width first) (hsecond : LeavesReady width second) :
    LeavesReady width (first ++ second) := by
  obtain ⟨early, rfl, hearly⟩ := hfirst
  obtain ⟨late, rfl, hlate⟩ := hsecond
  refine ⟨early ++ late, (Text.bytes_append early late).symm, fun l hready ↦ ?_⟩
  rw [feed_append]
  exact hlate _ (hearly l hready)

/-- A row that is closed by a carriage return leaves the line ready again. -/
theorem line {row : List Char} (h : '\r' ∉ row) :
    LeavesReady row.length (Text.bytes (row ++ ['\r'])) := by
  refine ⟨row ++ ['\r'], rfl, fun l hready ↦ ?_⟩
  rw [feed_line h hready]
  exact ⟨rfl, le_rfl⟩

/-- However often it is repeated, the line stays ready. -/
theorem replicate_flatten (h : LeavesReady width first) (times : Nat) :
    LeavesReady width (List.replicate times first).flatten := by
  induction times with
  | zero => exact nil
  | succ times ih =>
    rw [List.replicate_succ, List.flatten_cons]
    exact h.append ih

end LeavesReady

end ScreenLine

/-! ## Calls that keep the line ready -/

/-- From one world to another, the terminal has been sent what leaves lines ready. -/
def World.KeepsReady (width : Nat) (v w : World) : Prop :=
  ∃ content, w.contents .terminal = v.contents .terminal ++ content ∧
    ScreenLine.LeavesReady width content

namespace World.KeepsReady

variable {width : Nat} {u v w : World}

theorem of_kept (h : w.contents .terminal = v.contents .terminal) : v.KeepsReady width w :=
  ⟨[], h.trans (List.append_nil _).symm, .nil⟩

theorem trans (hfirst : u.KeepsReady width v) (hsecond : v.KeepsReady width w) :
    u.KeepsReady width w := by
  obtain ⟨early, hv, hearly⟩ := hfirst
  obtain ⟨late, hw, hlate⟩ := hsecond
  exact ⟨early ++ late, by rw [hw, hv, List.append_assoc], hearly.append hlate⟩

end World.KeepsReady

namespace World

/-- A blanked line is ready. -/
theorem leavesReady_blank (w : World) :
    ScreenLine.LeavesReady (w.window .terminal) w.blank := by
  have hblanks : '\r' ∉ List.replicate (w.window .terminal) ' ' := by
    simp [List.mem_replicate]
  have hline := ScreenLine.LeavesReady.line hblanks
  rw [List.length_replicate] at hline
  exact hline

end World

namespace Session

variable {σ : Type}

/-- A terminal that is open or can be opened, that works, and whose window has a width. -/
structure HasTerminal (width : Nat) (s : Session σ) : Prop where
  slot : s.openTerminal.engine.slot = .opened
  works : s.openTerminal.world.TerminalWorks
  window : s.openTerminal.world.window .terminal = width

/-- A session whose engine is at work on the status line alone. -/
structure ShowsStatus (s : Session σ) : Prop where
  atWork : s.engine.AtWork
  program : s.engine.program = [.ttyText "%c"]

theorem openTerminal_of_opened {s : Session σ} (h : s.engine.slot = .opened) :
    s.openTerminal = s := by
  unfold openTerminal
  rw [h]

/-- Opening the terminal neither moves the clock nor changes the environment. -/
theorem setting_openTerminal (s : Session σ) : s.openTerminal.world.setting = s.world.setting := by
  unfold openTerminal
  split
  · split
    · rfl
    · rename_i reason _
      have hlogged : (s.world.record (.openTerminal false)).AlikeBeside .terminal
          ((s.world.record (.openTerminal false)).debug "tty" ("cannot open terminal: " ++ reason)) :=
        .debug _ _ _
      exact hlogged.setting
  · rfl

theorem openTerminal_count (s : Session σ) : s.count.openTerminal = s.openTerminal.count := by
  obtain ⟨e, world, host⟩ := s
  obtain ⟨phase, isSealed, interval, program, signals, ticks, console, slot, isDirty⟩ := e
  obtain ⟨_, _, terminal⟩ := console
  cases slot with
  | unopened => cases terminal <;> rfl
  | _ => rfl

theorem HasTerminal.count {width : Nat} {s : Session σ} (h : s.HasTerminal width) :
    s.count.HasTerminal width := by
  constructor <;> rw [openTerminal_count]
  · exact h.slot
  · exact h.works
  · exact h.window

variable [Host σ] {width : Nat}

/-- A status line has the same text once the terminal is open. -/
theorem statusText_openTerminal (s : Session σ) :
    statusText s.openTerminal.scene = statusText s.scene :=
  statusText_congr (setting_openTerminal s) (host_openTerminal s)

/-- A text for the status line that a line of some width can hold. -/
def HasText (width : Nat) (s : Session σ) : Prop :=
  ∃ text, statusText s.scene = .ok text ∧ text.length ≤ width

/-- Calls on an engine at work on the status line, and a tick that fires. The terminal works all along,
and its window has room for every text. -/
structure LeadsToFiring (width : Nat) (calls : List (Call σ)) (isWrite : Bool) (s : Session σ) :
    Prop where
  status : s.ShowsStatus
  terminal : ∀ before, before <+: calls → (s.steps before).HasTerminal width
  texts : ∀ o ∈ s.firings (calls ++ [.tick isWrite]), o.found.HasText width
  firing : (Occasion.mk isWrite (s.steps calls)).isFiring = true

theorem run_ttyText_of_ok {isWrite : Bool} {checkpoint last : Nat} {template : String} {s t : Scene σ}
    (h : (render { stream := .terminal, isWrite, checkpoint } template.toList 0).run.run s =
      (.ok last, t)) :
    (Act.ttyText isWrite checkpoint template).run.run s = (.ok (), t) := by
  unfold Act.ttyText
  rw [Act.run_bind, h]
  rfl

/-- The status line is rendered on a terminal that works and has room for it. -/
theorem run_status_of_hasTerminal {s : Session σ} (hterminal : s.HasTerminal width) {text : List Char}
    (htext : statusText s.scene = .ok text) (isWrite : Bool) :
    ∃ t, (Act.ttyText isWrite s.engine.ticks "%c").run.run s.openTerminal.scene = (.ok (), t) ∧
      t.world.contents .terminal =
        s.world.contents .terminal ++ Text.bytes (text ++ statusTail width 0 text) := by
  let job : Template.Job := { stream := .terminal, isWrite, checkpoint := s.engine.ticks }
  have hwindow : s.openTerminal.scene.world.window job.stream = width := hterminal.window
  have hfits (content : List UInt8) :
      (s.openTerminal.scene.world.sinks.get job.stream).fits content = true := by
    have hroom : (s.openTerminal.scene.world.sinks.get job.stream).room = none :=
      hterminal.works.room
    rw [Sink.fits, hroom]
  have hpadding : s.openTerminal.scene.world.window job.stream - (0 + text.length) ≤ maxPadding :=
    (Nat.sub_le _ _).trans hterminal.works.width
  rw [← statusText_openTerminal] at htext
  obtain ⟨t, hrun, hspelled⟩ :=
    run_status_of_fits 0 htext hpadding (hfits _) hterminal.works.flushes
  refine ⟨t, run_ttyText_of_ok hrun, ?_⟩
  have hcontents := hspelled.contents
  rw [hwindow] at hcontents
  change t.world.contents .terminal = s.openTerminal.world.contents .terminal ++ _ at hcontents
  rw [hcontents, contents_openTerminal]

/-- A program of the status line alone succeeds, and sends its text and the blanks behind it. -/
theorem performAll_status {s : Session σ} (hterminal : s.HasTerminal width) {text : List Char}
    (htext : statusText s.scene = .ok text) (isWrite : Bool) :
    (s.performAll isWrite [.ttyText "%c"]).1 = .ok () ∧
      (s.performAll isWrite [.ttyText "%c"]).2.world.contents .terminal =
        s.world.contents .terminal ++ Text.bytes (text ++ statusTail width 0 text) := by
  obtain ⟨t, hrun, hcontents⟩ := run_status_of_hasTerminal hterminal htext isWrite
  have hperform : s.perform isWrite (.ttyText "%c") =
      (.ok (), (s.openTerminal.after t).onEngine fun e ↦
        { e with isDirty := e.isDirty || t.lineReset }) := by
    change s.withTerminal (Act.ttyText isWrite s.engine.ticks "%c") = _
    unfold withTerminal attemptOnTerminal
    dsimp only
    rw [if_pos hterminal.slot, hrun]
    rfl
  rw [performAll, hperform]
  exact ⟨rfl, hcontents⟩

/-- A firing sends the text of the status line and the blanks behind it. -/
theorem tick_of_showsStatus {s : Session σ} {isWrite : Bool} (hstatus : s.ShowsStatus)
    (hterminal : s.HasTerminal width) (hfiring : (Occasion.mk isWrite s).isFiring = true)
    {text : List Char} (htext : statusText s.scene = .ok text) :
    (s.tick isWrite).1 = .ok () ∧
      (s.tick isWrite).2.world.contents .terminal =
        s.world.contents .terminal ++ Text.bytes (text ++ statusTail width 0 text) := by
  have htick : s.tick isWrite = s.count.performAll isWrite [.ttyText "%c"] := by
    rw [tick_of_atWork hstatus.atWork, if_pos hfiring, hstatus.program]
  rw [htick]
  exact performAll_status hterminal.count htext isWrite

omit [Host σ] in
/-- Without an open terminal the end of a run writes nothing to it. -/
theorem contents_finish_of_not_opened {s : Session σ} (h : s.engine.slot ≠ .opened) :
    s.finish.2.world.contents .terminal = s.world.contents .terminal := by
  have hnone : pendingClears s.engine = 0 := if_neg fun hboth ↦ h hboth.2
  unfold finish
  split
  · rfl
  · rw [hnone, clearLines_zero]
    dsimp only
    rw [closeTerminal_eq, closingLog, if_neg h, World.recordAll_nil]

/-- What is stored when the line is blanked a number of times. -/
theorem contents_blanks (times : Nat) (blank : List UInt8) :
    Event.contents .terminal
        (List.replicate times [Event.write .terminal blank, .flush .terminal]).flatten =
      (List.replicate times blank).flatten := by
  have hsingle : Event.contents .terminal [.write .terminal blank, .flush .terminal] = blank :=
    List.append_nil _
  induction times with
  | zero => rfl
  | succ times ih =>
    rw [List.replicate_succ, List.replicate_succ, List.flatten_cons, List.flatten_cons,
      Event.contents_append, ih, hsingle]

omit [Host σ] in
/-- The end of a run blanks the line, and the line is ready for another run. -/
theorem keepsReady_finish {s : Session σ} (hinterval : s.engine.interval ≠ 0)
    (hterminal : s.HasTerminal width) : s.world.KeepsReady width s.finish.2.world := by
  by_cases hopened : s.engine.slot = .opened
  · obtain ⟨hslot, hworks, hwindow⟩ := hterminal
    rw [openTerminal_of_opened hopened] at hworks hwindow
    have hblank := s.world.leavesReady_blank
    rw [hwindow] at hblank
    have hevents := (finish_of_works hopened hinterval hworks).2
    refine ⟨_, ?_, hblank.replicate_flatten (pendingClears s.engine)⟩
    unfold World.contents
    rw [hevents, Event.contents_append, Event.contents_append, contents_blanks]
    exact List.append_nil _
  · exact .of_kept (contents_finish_of_not_opened hopened)

/-- No call changes that an engine shows the status line. -/
theorem ShowsStatus.next {s : Session σ} (h : s.ShowsStatus) (call : Call σ) :
    (s.next call).ShowsStatus := by
  cases hcall : call.direction? with
  | none =>
    have hsame := sameTask_next h.atWork hcall
    exact ⟨h.atWork.of_sameTask hsame, hsame.program.trans h.program⟩
  | some isWrite =>
    obtain rfl := Call.eq_tick_of_direction? hcall
    have hsame : (s.engine.countOn 1).SameTask (s.next (.tick isWrite)).engine :=
      sameTask_tick h.atWork isWrite
    exact ⟨(h.atWork.countOn 1).of_sameTask hsame, hsame.program.trans h.program⟩

/-- Calls that do not tick send nothing to the terminal, but for the end of a run. -/
theorem contents_next_of_atWork {s : Session σ} {call : Call σ} (hwork : s.engine.AtWork)
    (htick : call.direction? = none) (hfinish : call ≠ .finish) :
    (s.next call).world.contents .terminal = s.world.contents .terminal := by
  cases call with
  | compile spec =>
    change (s.compile spec).2.world.contents .terminal = _
    rw [compile_of_isSealed hwork.isSealed]
  | finishCompile =>
    have hlacks : s.engine.lacksProgram = false := by simp [Engine.lacksProgram, hwork.phase]
    change s.finishCompile.2.world.contents .terminal = _
    rw [finishCompile_of_not_lacksProgram (by simp [hwork.phase]) hlacks]
    rfl
  | tick isWrite => cases htick
  | finish => exact absurd rfl hfinish
  | meanwhile world host terminal => rfl

/-- The texts of a run that begins with a call are those of its first tick, and of the rest. -/
theorem hasText_of_cons {s : Session σ} {call : Call σ} {rest : List (Call σ)}
    (h : ∀ o ∈ s.firings (call :: rest), o.found.HasText width) :
    (∀ isWrite, call = .tick isWrite → (Occasion.mk isWrite s).isFiring = true → s.HasText width) ∧
      ∀ o ∈ (s.next call).firings rest, o.found.HasText width := by
  cases hcall : call.direction? with
  | some isWrite =>
    obtain rfl := Call.eq_tick_of_direction? hcall
    rw [firings_cons_tick] at h
    refine ⟨?_, fun o ho ↦ h o (List.mem_append_right _ ho)⟩
    rintro given heq hfiring
    cases heq
    rw [if_pos hfiring] at h
    exact h ⟨isWrite, s⟩ List.mem_cons_self
  | none =>
    rw [firings_cons_of_not_tick hcall] at h
    refine ⟨?_, h⟩
    rintro isWrite rfl
    cases hcall

/-- The text and its blanks fill the line exactly. -/
theorem length_status {text : List Char} (h : text.length ≤ width) :
    (text ++ List.replicate (width - text.length) ' ').length = width := by
  rw [List.length_append, List.length_replicate, Nat.add_sub_cancel' h]

/-- From column 0 the tail fills the line and returns. -/
theorem append_statusTail (width : Nat) (text : List Char) :
    text ++ statusTail width 0 text = text ++ List.replicate (width - text.length) ' ' ++ ['\r'] := by
  rw [statusTail, Nat.zero_add, List.append_assoc]

variable [Host.SingleLine σ]

/-- The text of a status line that fits, and the blanks behind it. -/
theorem return_not_mem_status {s : Session σ} {text : List Char} (htext : statusText s.scene = .ok text)
    (blanks : Nat) : '\r' ∉ text ++ List.replicate blanks ' ' := by
  simp [return_not_mem_statusText htext, List.mem_replicate]

/-- A tick of an engine at work on the status line keeps the line ready. -/
theorem keepsReady_tick {s : Session σ} {isWrite : Bool} (hstatus : s.ShowsStatus)
    (hterminal : s.HasTerminal width)
    (htext : (Occasion.mk isWrite s).isFiring = true → s.HasText width) :
    s.world.KeepsReady width (s.tick isWrite).2.world := by
  by_cases hfiring : (Occasion.mk isWrite s).isFiring = true
  · obtain ⟨text, hline, hfits⟩ := htext hfiring
    have hsent := (tick_of_showsStatus hstatus hterminal hfiring hline).2
    have hready := ScreenLine.LeavesReady.line (return_not_mem_status hline (width - text.length))
    rw [length_status hfits, ← append_statusTail] at hready
    exact ⟨_, hsent, hready⟩
  · rw [tick_of_atWork hstatus.atWork, if_neg hfiring]
    exact .of_kept rfl

/-- So does any other call. -/
theorem keepsReady_next {s : Session σ} {call : Call σ} (hstatus : s.ShowsStatus)
    (hterminal : s.HasTerminal width)
    (htext : ∀ isWrite, call = .tick isWrite → (Occasion.mk isWrite s).isFiring = true →
      s.HasText width) :
    s.world.KeepsReady width (s.next call).world := by
  cases hcall : call.direction? with
  | some isWrite =>
    obtain rfl := Call.eq_tick_of_direction? hcall
    exact keepsReady_tick hstatus hterminal (htext isWrite rfl)
  | none =>
    by_cases hfinish : call = .finish
    · rw [hfinish]
      exact keepsReady_finish hstatus.atWork.interval_pos.ne' hterminal
    · exact .of_kept (contents_next_of_atWork hstatus.atWork hcall hfinish)

/-- The line is ready after every row of calls on a terminal that works, if all texts fit it. -/
theorem keepsReady_steps {s : Session σ} {calls : List (Call σ)} (hstatus : s.ShowsStatus)
    (hterminal : ∀ before, before <+: calls → (s.steps before).HasTerminal width)
    (htexts : ∀ o ∈ s.firings calls, o.found.HasText width) :
    (s.steps calls).ShowsStatus ∧ s.world.KeepsReady width (s.steps calls).world := by
  induction calls generalizing s with
  | nil => exact ⟨hstatus, .of_kept rfl⟩
  | cons call rest ih =>
    obtain ⟨hfirst, hlater⟩ := hasText_of_cons htexts
    have hopen : s.HasTerminal width := hterminal [] List.nil_prefix
    obtain ⟨hlast, hrest⟩ := ih (hstatus.next call)
      (fun before hbefore ↦ hterminal (call :: before) (List.cons_prefix_cons.2 ⟨rfl, hbefore⟩)) hlater
    exact ⟨hlast, (keepsReady_next hstatus hopen hfirst).trans hrest⟩

/-- The firing shows its text and blanks behind it on every line that was ready before the calls. -/
theorem read_of_leadsToFiring {s : Session σ} {calls : List (Call σ)} {isWrite : Bool}
    (h : s.LeadsToFiring width calls isWrite) {l : ScreenLine} (hready : l.IsReady width) :
    ∃ text, statusText (s.steps calls).scene = .ok text ∧
      ((s.steps calls).tick isWrite).1 = .ok () ∧
      l.read (((s.steps (calls ++ [.tick isWrite])).world.contents .terminal).drop
          (s.world.contents .terminal).length) =
        some { cells := text ++ List.replicate (width - text.length) ' ' } := by
  obtain ⟨hstatus, hterminal, htexts, hfiring⟩ := h
  have hlast := firings_append calls [.tick isWrite] s
  rw [firings_cons_tick, if_pos hfiring] at hlast
  rw [hlast] at htexts
  obtain ⟨hstill, sent, hsent, early, rfl, hearly⟩ :=
    keepsReady_steps hstatus hterminal fun o ho ↦ htexts o (List.mem_append_left _ ho)
  obtain ⟨text, hline, hfits⟩ :=
    htexts ⟨isWrite, s.steps calls⟩ (List.mem_append_right _ List.mem_cons_self)
  obtain ⟨hok, hfinal⟩ := tick_of_showsStatus hstill (hterminal calls List.prefix_rfl) hfiring hline
  let row := text ++ List.replicate (width - text.length) ' '
  have hrow : '\r' ∉ row := return_not_mem_status hline _
  have hshown : (l.feed early).feed (row ++ ['\r']) = ⟨row, 0⟩ := by
    apply ScreenLine.feed_line hrow
    rw [length_status hfits]
    exact hearly l hready
  have hcontents : (s.steps (calls ++ [.tick isWrite])).world.contents .terminal =
      s.world.contents .terminal ++ Text.bytes (early ++ (row ++ ['\r'])) := by
    calc
      (s.steps (calls ++ [.tick isWrite])).world.contents .terminal =
          ((s.steps calls).tick isWrite).2.world.contents .terminal := by
        rw [steps_append]
        rfl
      _ = (s.steps calls).world.contents .terminal ++ Text.bytes (row ++ ['\r']) := by
        rw [hfinal, append_statusTail]
      _ = s.world.contents .terminal ++ Text.bytes (early ++ (row ++ ['\r'])) := by
        rw [hsent, List.append_assoc, Text.bytes_append early]
  refine ⟨text, hline, hok, ?_⟩
  rw [hcontents, List.drop_left, ScreenLine.read_bytes, ScreenLine.feed_append, hshown]

end Session

/-! ## The law -/

structure StatusLineLaw (σ : Type) [Host σ] : Prop where
  /-- A rendering with success stores a text without a carriage return, blanks up to the width of the
  window, and a single carriage return, of which it takes note. -/
  rendering : ∀ (job : Template.Job) (column last : Nat) (s t : Scene σ),
    (render job "%c".toList column).run.run s = (.ok last, t) →
      ∃ text, statusText s = .ok text ∧ '\r' ∉ text ∧
        t.world.contents job.stream = s.world.contents job.stream ++ Text.bytes
          (text ++ List.replicate (s.world.window job.stream - (column + text.length)) ' ' ++
            ['\r']) ∧
        last = 0 ∧ t.lineReset = true
  /-- On a terminal that works all along, and with texts that fit its window, the line shows the text
  of a firing and nothing but blanks behind it, whatever it showed before. -/
  overwriting : ∀ (width : Nat) (s : Session σ) (calls : List (Call σ)) (isWrite : Bool)
    (l : ScreenLine), s.LeadsToFiring width calls isWrite → l.IsReady width →
      ∃ text, statusText (s.steps calls).scene = .ok text ∧
        ((s.steps calls).tick isWrite).1 = .ok () ∧
        l.read (((s.steps (calls ++ [.tick isWrite])).world.contents .terminal).drop
            (s.world.contents .terminal).length) =
          some { cells := text ++ List.replicate (width - text.length) ' ' }

/-- The law of the status line holds for all hosts whose texts stay on one line. -/
theorem statusLineLaw (σ : Type) [Host σ] [Host.SingleLine σ] : StatusLineLaw σ where
  rendering job column last s t h := by
    obtain ⟨text, htext, hlast, hspelled⟩ := of_run_status h
    refine ⟨text, htext, return_not_mem_statusText htext, ?_, hlast, ?_⟩
    · rw [hspelled.contents, statusTail, List.append_assoc]
    · rw [hspelled.lineReset, Bool.or_true]
  overwriting width s calls isWrite l h hready := Session.read_of_leadsToFiring h hready

/-- A line of a long time stands on the screen when the host takes up a shorter one. The next line
leaves nothing of it. -/
theorem read_of_shorter_status_line :
    let s := (Session.fresh 1 ⟨.listing, .diagnostics, .ok { width := some 50 }⟩ {}
      ({ elapsed := .ofSeconds 100000 } : ScriptedHost)).steps [.compile "ttyout=%c", .finishCompile]
    let later : World := { passed := .ofSeconds 5, sinks := { terminal := { width := some 50 } } }
    let calls : List (Call ScriptedHost) := [.tick true, .meanwhile later {} (.ok {})]
    ({} : ScreenLine).read ((s.steps (calls ++ [.tick false])).world.contents .terminal) =
      some { cells := "2023-11-14 22:13:25: 5s, [read|wrote|D]           ".toList } := by
  intro s later calls
  have hwork : s.engine.AtWork := ⟨by decide +kernel, by decide +kernel, by decide +kernel⟩
  have hterminal (before : List (Call ScriptedHost)) (hbefore : before <+: calls) :
      (s.steps before).HasTerminal 50 := by
    obtain rfl | rfl | rfl : before = [] ∨ before = [.tick true] ∨ before = calls := by
      simp only [calls, List.prefix_cons_iff, List.prefix_nil] at hbefore
      obtain rfl | ⟨rest, rfl, rfl | ⟨last, rfl, rfl⟩⟩ := hbefore <;> simp [calls]
    all_goals exact ⟨by decide +kernel, ⟨by decide +kernel, by decide +kernel, by decide +kernel⟩,
      by decide +kernel⟩
  have hlong : statusText s.scene = .ok "2023-11-14 22:13:20: 100000s, [read|wrote|D]".toList := by
    decide +kernel
  have hshort : statusText (s.steps calls).scene =
      .ok "2023-11-14 22:13:25: 5s, [read|wrote|D]".toList := by
    decide +kernel
  have htexts (o : Occasion ScriptedHost) (ho : o ∈ s.firings (calls ++ [.tick false])) :
      o.found.HasText 50 := by
    obtain rfl | rfl : o = ⟨true, s⟩ ∨ o = ⟨false, s.steps calls⟩ := by
      simpa [calls, Session.occasions, Call.direction?] using List.mem_of_mem_filter ho
    · exact ⟨_, hlong, by decide⟩
    · exact ⟨_, hshort, by decide⟩
  have hrun : s.LeadsToFiring 50 calls false :=
    ⟨⟨hwork, by decide +kernel⟩, hterminal, htexts, by decide +kernel⟩
  obtain ⟨text, htext, -, hread⟩ :=
    (statusLineLaw ScriptedHost).overwriting 50 s calls false {} hrun ⟨rfl, by decide⟩
  have hsame : "2023-11-14 22:13:25: 5s, [read|wrote|D]".toList = text := by
    rwa [hshort, Except.ok.injEq] at htext
  have hbegin : s.world.contents .terminal = [] := by decide +kernel
  have hblanks : "2023-11-14 22:13:25: 5s, [read|wrote|D]".toList ++ List.replicate 11 ' ' =
      "2023-11-14 22:13:25: 5s, [read|wrote|D]           ".toList := by
    decide
  rw [← hsame, hbegin, List.length_nil, List.drop_zero] at hread
  rw [hread, ← hblanks]
  rfl

end ProgressActions
