import ProgressActions.Proofs.Agenda

/-!
# The counters of an archive

The ticks of a record and the bytes that it counts for are settled apart from each other: the ticks
are told by the parity of the records before it, and the bytes are added up in two counters. They
agree after any row of operations. Each tick for reading stands for a record's worth of bytes read,
and each tick for writing for as many bytes written, whatever else the archive is asked for in
between. When records are deleted, what was read has been either written back or dropped.
-/

namespace ProgressActions

variable {μ : Type} [Launch.Place μ]

namespace Archive

/-! ## Operations -/

/-- What can be done with an archive. -/
inductive Operation where
  | transfer
  /-- The surroundings change: time passes, and sinks fill up or are replaced. -/
  | meanwhile (world : World)
  | resetTimer
  | duration
  | totals (stream : Stream) (labels : Template.Labels) (separator : Char)
  | printTotals
  | script (command archive : String) (checkpoint : Nat)
  | reportError (message : String)

namespace Operation

def isTransfer : Operation → Bool
  | transfer => true
  | _ => false

/-- The scene after an operation, however the operation ends. -/
def next (s : Scene (Archive μ)) : Operation → Scene (Archive μ)
  | transfer => { s with host := s.host.transfer }
  | meanwhile world => { s with world }
  | resetTimer => { s with host := s.host.resetTimer s.world.passed }
  | duration => (Act.elapsed.run.run s).2
  | totals stream labels separator => ((Act.totals stream labels separator).run.run s).2
  | printTotals => (Act.printTotals.run.run s).2
  | script command archive checkpoint => ((Act.exec command archive checkpoint).run.run s).2
  | reportError message => ((Act.reportError message).run.run s).2

def ticks (s : Scene (Archive μ)) : Operation → List Bool
  | transfer => s.host.nextTicks
  | _ => []

end Operation

def operate (row : List Operation) (s : Scene (Archive μ)) : Scene (Archive μ) := row.foldl Operation.next s

/-- The ticks that a row of operations returns, one list after the other. -/
def ticksOf : List Operation → Scene (Archive μ) → List Bool
  | [], _ => []
  | operation :: rest, s => operation.ticks s ++ ticksOf rest (operation.next s)

/-- An archive that nothing has been done with, its timer started at a moment of the run. -/
def fresh (archiveName : String) (mode : Mode) (recordSize : Nat) (site : μ)
    (moment : Duration) : Archive μ :=
  { archiveName, mode, recordSize, timerStart := moment, site }

/-! ## Single operations -/

/-- No activity of a host on a stream changes the tally of an archive. -/
theorem admits_tally_scene (stream : Stream) :
    Scene.Admits stream fun s t : Scene (Archive μ) ↦ t.host.tally = s.host.tally where
  refl _ := rfl
  trans hst htu := htu.trans hst
  write _ _ := rfl
  flush _ := rfl
  record _ _ _ := rfl
  log _ _ := rfl
  measure s := admits_tally.measure s.world.passed s.host
  noteError s message := admits_tally.noteError message s.host

/-- Only a transfer changes the tally. -/
theorem tally_next {operation : Operation} (h : operation.isTransfer = false) (s : Scene (Archive μ)) :
    (operation.next s).host.tally = s.host.tally := by
  cases operation with
  | transfer => cases h
  | meanwhile world => rfl
  | resetTimer => rfl
  | duration => exact Act.Within.elapsed (admits_tally_scene .stderr) s
  | totals stream labels separator =>
    exact Act.Within.totals (admits_tally_scene stream) labels separator s
  | printTotals =>
    rw [Operation.next, Act.run_printTotals]
    split
    · rw [Act.run_write]
    · rfl
  | script command archive checkpoint =>
    rw [Operation.next, Act.run_exec]
    exact admits_tally.exec command archive checkpoint s.host
  | reportError message => exact Act.Within.reportError (admits_tally_scene .stderr) message s

theorem eq_transfer_of_isTransfer {operation : Operation} (h : operation.isTransfer = true) :
    operation = .transfer := by
  cases operation with
  | transfer => rfl
  | _ => cases h

omit [Launch.Place μ] in
/-- Only a transfer returns ticks. -/
theorem ticks_of_not_isTransfer {operation : Operation} (h : operation.isTransfer = false)
    (s : Scene (Archive μ)) : operation.ticks s = [] := by
  cases operation with
  | transfer => cases h
  | _ => rfl

end Archive

/-! ## Ticks and records -/

namespace Mode

/-- The ticks of a record tell whether it is read. -/
theorem recordsRead_succ (m : Mode) (moved : Nat) :
    m.recordsRead (moved + 1) = m.recordsRead moved + (m.directions moved).count false := by
  cases m with
  | read => rfl
  | write => rfl
  | delete =>
    simp only [recordsRead, directions]
    split <;> rfl

/-- The ticks of a record tell whether it is written. -/
theorem recordsWritten_succ (m : Mode) (moved : Nat) :
    m.recordsWritten (moved + 1) = m.recordsWritten moved + (m.directions moved).count true := by
  cases m with
  | read => rfl
  | write => rfl
  | delete =>
    simp only [recordsWritten, directions]
    split
    · have hcount : [false, true].count true = 1 := rfl
      omega
    · have hcount : [false].count true = 0 := rfl
      omega

end Mode

namespace Archive

/-! ## Rows of operations -/

/-- A row of operations counts its transfers. -/
theorem tally_operate {mode : Mode} {recordSize moved : Nat} (row : List Operation)
    {s : Scene (Archive μ)} (h : s.host.tally = .after mode recordSize moved) :
    (operate row s).host.tally =
      .after mode recordSize (moved + row.countP Operation.isTransfer) := by
  induction row generalizing moved s with
  | nil => exact h
  | cons operation rest ih =>
    cases htransfer : operation.isTransfer with
    | true =>
      obtain rfl := eq_transfer_of_isTransfer htransfer
      rw [List.countP_cons_of_pos htransfer, Nat.add_comm _ 1, ← Nat.add_assoc]
      exact ih (tally_transfer h)
    | false =>
      have hnext := (tally_next htransfer s).trans h
      rw [List.countP_cons_of_neg (Bool.eq_false_iff.1 htransfer)]
      exact ih hnext

/-- The ticks that a row of operations returns are those of the records it moves. -/
theorem count_ticksOf {mode : Mode} {recordSize moved : Nat} (row : List Operation)
    {s : Scene (Archive μ)} (h : s.host.tally = .after mode recordSize moved) :
    mode.recordsRead (moved + row.countP Operation.isTransfer) =
        mode.recordsRead moved + (ticksOf row s).count false ∧
      mode.recordsWritten (moved + row.countP Operation.isTransfer) =
        mode.recordsWritten moved + (ticksOf row s).count true := by
  induction row generalizing moved s with
  | nil => exact ⟨rfl, rfl⟩
  | cons operation rest ih =>
    rw [ticksOf, List.count_append, List.count_append]
    cases htransfer : operation.isTransfer with
    | true =>
      obtain rfl := eq_transfer_of_isTransfer htransfer
      have hmode : s.host.mode = mode := congrArg Tally.mode h
      have hrecords : s.host.records = moved := congrArg Tally.records h
      have hticks : Operation.transfer.ticks s = mode.directions moved := by
        rw [Operation.ticks, nextTicks_eq, hmode, hrecords]
      obtain ⟨hread, hwritten⟩ := ih (s := Operation.transfer.next s) (tally_transfer h)
      rw [List.countP_cons_of_pos htransfer, Nat.add_comm _ 1, ← Nat.add_assoc, hread, hwritten,
        Mode.recordsRead_succ, Mode.recordsWritten_succ, hticks, Nat.add_assoc, Nat.add_assoc]
      exact ⟨rfl, rfl⟩
    | false =>
      have hnext := (tally_next htransfer s).trans h
      rw [List.countP_cons_of_neg (Bool.eq_false_iff.1 htransfer),
        ticks_of_not_isTransfer htransfer, List.count_nil, List.count_nil, Nat.zero_add,
        Nat.zero_add]
      exact ih hnext

/-! ## The account -/

/-- The counters of an archive that has moved a number of records and caused some ticks. -/
structure Accounted (m : Mode) (size moved : Nat) (flags : List Bool) (a : Archive μ) : Prop where
  mode : a.mode = m
  records : a.records = moved
  bytesRead : a.bytesRead = size * flags.count false
  bytesWritten : a.bytesWritten = size * flags.count true
  /-- What each mode makes of its records. -/
  worth : match m with
    | .read => a.bytesWritten = 0 ∧ a.bytesDeleted = 0
    | .write => a.bytesRead = 0 ∧ a.bytesDeleted = 0
    | .delete =>
      a.bytesRead = moved * size ∧ a.bytesWritten = (moved + 1) / 2 * size ∧
        a.bytesDeleted = moved / 2 * size ∧ a.bytesRead = a.bytesWritten + a.bytesDeleted

/-- Each record is either the first or the second of a pair. -/
theorem bytes_halves (moved size : Nat) :
    moved * size = (moved + 1) / 2 * size + moved / 2 * size := by
  have hhalves : moved = (moved + 1) / 2 + moved / 2 := by omega
  calc
    moved * size = ((moved + 1) / 2 + moved / 2) * size := congrArg (· * size) hhalves
    _ = (moved + 1) / 2 * size + moved / 2 * size := Nat.add_mul _ _ _

omit [Launch.Place μ] in
theorem accounted_of_tally {m : Mode} {size moved : Nat} {flags : List Bool} {a : Archive μ}
    (htally : a.tally = .after m size moved) (hread : m.recordsRead moved = flags.count false)
    (hwritten : m.recordsWritten moved = flags.count true) : Accounted m size moved flags a := by
  have hmode : a.mode = m := congrArg Tally.mode htally
  have hbytesRead : a.bytesRead = m.recordsRead moved * size := congrArg Tally.bytesRead htally
  have hbytesWritten : a.bytesWritten = m.recordsWritten moved * size :=
    congrArg Tally.bytesWritten htally
  refine ⟨hmode, congrArg Tally.records htally, ?_, ?_, ?_⟩
  · rw [hbytesRead, hread, Nat.mul_comm]
  · rw [hbytesWritten, hwritten, Nat.mul_comm]
  · cases m with
    | read => exact ⟨hbytesWritten.trans (Nat.zero_mul size), by rw [bytesDeleted, hmode]⟩
    | write => exact ⟨hbytesRead.trans (Nat.zero_mul size), by rw [bytesDeleted, hmode]⟩
    | delete =>
      have hhalves := bytes_halves moved size
      have hsum : a.bytesRead = a.bytesWritten + moved / 2 * size := by
        rw [hbytesRead, hbytesWritten]
        exact hhalves
      have hdeleted : a.bytesDeleted = moved / 2 * size := by
        simp only [bytesDeleted, hmode]
        omega
      exact ⟨hbytesRead, hbytesWritten, hdeleted, hdeleted ▸ hsum⟩

/-- Whatever is done with an archive, its counters agree with its transfers and with the ticks that
these have returned. When records are deleted, all that was read is either written or dropped. -/
theorem accounted_operate (archiveName : String) (mode : Mode) (recordSize : Nat)
    (site : μ) (moment : Duration) (world : World) (row : List Operation) :
    let start : Scene (Archive μ) :=
      { world, host := fresh archiveName mode recordSize site moment }
    Accounted mode recordSize (row.countP Operation.isTransfer) (ticksOf row start)
      (operate row start).host := by
  intro start
  have hstart : start.host.tally = .after mode recordSize 0 := by
    cases mode <;> simp [start, fresh, tally, Tally.after, Mode.recordsRead, Mode.recordsWritten]
  have htally := tally_operate row hstart
  obtain ⟨hread, hwritten⟩ := count_ticksOf row hstart
  have hnone : mode.recordsRead 0 = 0 ∧ mode.recordsWritten 0 = 0 := by
    cases mode <;> exact ⟨rfl, rfl⟩
  rw [hnone.1, Nat.zero_add, Nat.zero_add] at hread
  rw [hnone.2, Nat.zero_add, Nat.zero_add] at hwritten
  rw [Nat.zero_add] at htally
  exact accounted_of_tally htally hread hwritten

/-- Three records that are deleted: two are written back, and the second is dropped. -/
example :
    let start : Scene Archive := { world := {}, host := fresh "a.tar" .delete 512 {} .zero }
    ticksOf [.transfer, .resetTimer, .transfer, .transfer] start =
      [false, true, false, false, true] := by
  decide

end Archive

end ProgressActions
