import ProgressActions.Calendar.Date

/-!
# Local time

A moment in Unix time together with the distance of the local clock from universal time.
-/

namespace ProgressActions.Calendar

/-- A moment after the start of 1970, seen from a place with a fixed distance from universal time. -/
structure LocalTime where
  /-- Seconds of Unix time. -/
  unixSeconds : Int
  /-- Nanoseconds within the second. -/
  nanosecond : Nat
  /-- Seconds east of universal time. -/
  offset : Int
  deriving DecidableEq, Repr

namespace LocalTime

/-- The last second of the last year that the calendar covers, 262142. -/
def lastSecond : Int := 8210266876799

/-- There is no local time for a moment before 1970 or after the last year. -/
def ofUnix? (unixSeconds : Int) (nanosecond : Nat) (offset : Int) : Option LocalTime :=
  if 0 ≤ unixSeconds ∧ unixSeconds ≤ lastSecond then some ⟨unixSeconds, nanosecond, offset⟩ else none

def localSeconds (t : LocalTime) : Int := t.unixSeconds + t.offset

def date (t : LocalTime) : Date := .ofEpochDay (t.localSeconds / 86400)

def secondOfDay (t : LocalTime) : Nat := (t.localSeconds % 86400).toNat

def hour (t : LocalTime) : Nat := t.secondOfDay / 3600

def minute (t : LocalTime) : Nat := t.secondOfDay / 60 % 60

def second (t : LocalTime) : Nat := t.secondOfDay % 60

/-- The hour on a dial of twelve: noon and midnight are 12. -/
def dialHour (t : LocalTime) : Nat := if t.hour % 12 = 0 then 12 else t.hour % 12

def isAfternoon (t : LocalTime) : Bool := 12 ≤ t.hour

theorem secondOfDay_lt (t : LocalTime) : t.secondOfDay < 86400 := by
  unfold secondOfDay
  omega

end LocalTime

end ProgressActions.Calendar
