import Mathlib.Data.List.Range
import ProgressActions.Archive.Host
import ProgressActions.Proofs.Hosting

/-!
# The agenda of an archive

The mode of an archive fixes what each tick is about: whether it is for reading or for writing, and
how many records have been moved by then. In the modes that only read or only write there is one
tick for each record. When records are deleted, two records make three ticks: the first record is
read and written back, the second is only read.
-/

namespace ProgressActions

variable {μ : Type}

/-- What an archive counts, and how. -/
structure Tally where
  mode : Mode
  recordSize : Nat
  records : Nat
  bytesRead : Nat
  bytesWritten : Nat

namespace Mode

/-- How many of the records moved have been read. -/
def recordsRead (m : Mode) (moved : Nat) : Nat :=
  match m with
  | read => moved
  | write => 0
  | delete => moved

/-- How many of the records moved have been written. -/
def recordsWritten (m : Mode) (moved : Nat) : Nat :=
  match m with
  | read => 0
  | write => moved
  | delete => (moved + 1) / 2

end Mode

def Tally.after (mode : Mode) (recordSize records : Nat) : Tally where
  mode := mode
  recordSize := recordSize
  records := records
  bytesRead := mode.recordsRead records * recordSize
  bytesWritten := mode.recordsWritten records * recordSize

namespace Archive

def tally (a : Archive μ) : Tally where
  mode := a.mode
  recordSize := a.recordSize
  records := a.records
  bytesRead := a.bytesRead
  bytesWritten := a.bytesWritten

/-- Nothing that is asked of an archive changes its tally. -/
theorem admits_tally [Launch.Place μ] :
    Host.Admits fun before after : Archive μ ↦ after.tally = before.tally where
  refl _ := rfl
  trans hfirst hsecond := hsecond.trans hfirst
  measure _ _ := rfl
  noteError _ _ := rfl
  exec _ _ _ _ := rfl

theorem tally_transfer {a : Archive μ} {mode : Mode} {recordSize records : Nat}
    (h : a.tally = .after mode recordSize records) :
    a.transfer.tally = .after mode recordSize (records + 1) := by
  have hmode : a.mode = mode := congrArg Tally.mode h
  have hsize : a.recordSize = recordSize := congrArg Tally.recordSize h
  have hrecords : a.records = records := congrArg Tally.records h
  have hread := congrArg Tally.bytesRead h
  have hwritten := congrArg Tally.bytesWritten h
  cases mode with
  | read =>
    simp_all [transfer, tally, Tally.after, Mode.recordsRead, Mode.recordsWritten, Nat.succ_mul]
  | write =>
    simp_all [transfer, tally, Tally.after, Mode.recordsRead, Mode.recordsWritten, Nat.succ_mul]
  | delete =>
    rcases Nat.mod_two_eq_zero_or_one records with heven | hodd
    · have hhalf : (records + 1 + 1) / 2 = (records + 1) / 2 + 1 := by omega
      simp_all [transfer, tally, Tally.after, Mode.recordsRead, Mode.recordsWritten, Nat.succ_mul]
    · have hhalf : (records + 1 + 1) / 2 = (records + 1) / 2 := by omega
      simp_all [transfer, tally, Tally.after, Mode.recordsRead, Mode.recordsWritten, Nat.succ_mul]

end Archive

namespace Mode

/-- The directions of the ticks that a record causes, given how many were moved before it. -/
def directions (m : Mode) (moved : Nat) : List Bool :=
  match m with
  | read => [false]
  | write => [true]
  | delete => if moved % 2 = 0 then [false, true] else [false]

end Mode

theorem Archive.nextTicks_eq (a : Archive μ) : a.nextTicks = a.mode.directions a.records := rfl

namespace Mode

/-- The ticks for a number of records. -/
def ticksFor (m : Mode) (blocks : Nat) : Nat :=
  match m with
  | delete => blocks + (blocks + 1) / 2
  | _ => blocks

def directionAt (m : Mode) (tick : Nat) : Bool :=
  match m with
  | read => false
  | write => true
  | delete => tick % 3 == 2

/-- The number of records that have been moved when a tick comes. -/
def recordsAt (m : Mode) (tick : Nat) : Nat :=
  match m with
  | delete => tick - (tick + 1) / 3
  | _ => tick

/-- The directions of the ticks for a row of records, each with the records moved by then. -/
def agenda (m : Mode) : (moved blocks : Nat) → List (Bool × Nat)
  | _, 0 => []
  | moved, blocks + 1 =>
    (m.directions moved).map (·, moved + 1) ++ m.agenda (moved + 1) blocks

/-- The agenda of one record more ends with the ticks of that record. -/
theorem agenda_succ (m : Mode) (moved blocks : Nat) :
    m.agenda moved (blocks + 1) =
      m.agenda moved blocks ++ (m.directions (moved + blocks)).map (·, moved + blocks + 1) := by
  induction blocks generalizing moved with
  | zero => simp [agenda]
  | succ blocks ih =>
    rw [agenda, ih, agenda, List.append_assoc, Nat.add_right_comm moved 1 blocks]
    rfl

/-- The last record adds the ticks of its own. -/
theorem ticksFor_succ (m : Mode) (blocks : Nat) :
    m.ticksFor (blocks + 1) = m.ticksFor blocks + (m.directions blocks).length := by
  cases m with
  | read => rfl
  | write => rfl
  | delete =>
    simp only [ticksFor, directions]
    split
    · simp only [List.length_cons, List.length_nil]
      omega
    · simp only [List.length_cons, List.length_nil]
      omega

/-- The ticks that a record causes are those with the next numbers. -/
theorem directions_eq (m : Mode) (blocks : Nat) :
    (m.directions blocks).map (·, blocks + 1) =
      (List.range (m.directions blocks).length).map fun j ↦
        (m.directionAt (m.ticksFor blocks + j + 1), m.recordsAt (m.ticksFor blocks + j + 1)) := by
  cases m with
  | read => rfl
  | write => rfl
  | delete =>
    obtain ⟨half, rfl | rfl⟩ : ∃ half, blocks = 2 * half ∨ blocks = 2 * half + 1 :=
      ⟨blocks / 2, by omega⟩
    · have hticks : ticksFor delete (2 * half) = 3 * half := by
        simp only [ticksFor]
        omega
      have hdirections : directions delete (2 * half) = [false, true] := by
        simp [directions]
      rw [hticks, hdirections]
      simp [directionAt, recordsAt, List.range_succ]
      omega
    · have hticks : ticksFor delete (2 * half + 1) = 3 * half + 2 := by
        simp only [ticksFor]
        omega
      have hdirections : directions delete (2 * half + 1) = [false] := by
        simp [directions, Nat.add_mod]
      rw [hticks, hdirections]
      simp [directionAt, recordsAt]
      omega

/-- What every tick is about, by its number. -/
theorem agenda_zero (m : Mode) (blocks : Nat) :
    m.agenda 0 blocks =
      (List.range (m.ticksFor blocks)).map fun j ↦ (m.directionAt (j + 1), m.recordsAt (j + 1)) := by
  induction blocks with
  | zero => cases m <;> rfl
  | succ blocks ih =>
    rw [agenda_succ, ih, Nat.zero_add, directions_eq, ticksFor_succ, List.range_add,
      List.map_append, List.map_map]
    rfl

end Mode

end ProgressActions
