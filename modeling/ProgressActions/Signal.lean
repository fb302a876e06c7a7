/-!
# Signals

The 31 standard signals with their Linux numbers, in the order of the numbers.
-/

namespace ProgressActions

/-- A standard signal. -/
inductive Signal where
  | hup | int | quit | ill | trap | abrt | bus | fpe | kill | usr1
  | segv | usr2 | pipe | alrm | term | stkflt | chld | cont | stop | tstp
  | ttin | ttou | urg | xcpu | xfsz | vtalrm | prof | winch | io | pwr
  | sys
  deriving DecidableEq, Repr

namespace Signal

/-- Every signal, in the order of the numbers. -/
def all : List Signal :=
  [hup, int, quit, ill, trap, abrt, bus, fpe, kill, usr1,
   segv, usr2, pipe, alrm, term, stkflt, chld, cont, stop, tstp,
   ttin, ttou, urg, xcpu, xfsz, vtalrm, prof, winch, io, pwr,
   sys]

/-- The Linux number of a signal. -/
def number (s : Signal) : Nat := s.ctorIdx + 1

/-- The name of a signal without `SIG`. -/
def shortName : Signal → String
  | hup => "HUP" | int => "INT" | quit => "QUIT" | ill => "ILL" | trap => "TRAP"
  | abrt => "ABRT" | bus => "BUS" | fpe => "FPE" | kill => "KILL" | usr1 => "USR1"
  | segv => "SEGV" | usr2 => "USR2" | pipe => "PIPE" | alrm => "ALRM" | term => "TERM"
  | stkflt => "STKFLT" | chld => "CHLD" | cont => "CONT" | stop => "STOP" | tstp => "TSTP"
  | ttin => "TTIN" | ttou => "TTOU" | urg => "URG" | xcpu => "XCPU" | xfsz => "XFSZ"
  | vtalrm => "VTALRM" | prof => "PROF" | winch => "WINCH" | io => "IO" | pwr => "PWR"
  | sys => "SYS"

/-- The three letters that open every full name. -/
def opening : List Char := ['S', 'I', 'G']

def fullName (s : Signal) : List Char := opening ++ s.shortName.toList

theorem mem_all (s : Signal) : s ∈ all := by
  cases s <;> decide

theorem all_nodup : all.Nodup := by decide

theorem number_pos (s : Signal) : 1 ≤ s.number := Nat.succ_pos _

theorem number_le (s : Signal) : s.number ≤ 31 := by
  cases s <;> decide

theorem map_number_all : all.map number = List.range' 1 31 := by decide

def ofNumber? (n : Int) : Option Signal := all.find? fun s ↦ (s.number : Int) == n

/-- The signal with a full name, compared letter by letter. -/
def ofFullName? (name : List Char) : Option Signal := all.find? fun s ↦ s.fullName == name

end Signal

end ProgressActions
