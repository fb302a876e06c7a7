/-!
# Days of the Gregorian calendar

A day is counted from the first of January 1970. The calendar runs without end in both directions;
a date is a year and the place of the day in it, from which month, weekday and week numbers follow.
-/

namespace ProgressActions.Calendar

/-- Every fourth year is a leap year, except centuries that 400 does not divide. -/
def isLeap (year : Int) : Bool :=
  year % 4 == 0 && (year % 100 != 0 || year % 400 == 0)

/-- The number of days in a year. -/
def yearLength (year : Int) : Nat := if isLeap year then 366 else 365

/-- The number of the first day of a year. -/
def yearStart (year : Int) : Int :=
  let before := year - 1
  365 * year + before / 4 - before / 100 + before / 400 - 719527

@[simp] theorem yearStart_1970 : yearStart 1970 = 0 := by decide

theorem yearStart_succ (year : Int) :
    yearStart (year + 1) = yearStart year + yearLength year := by
  simp only [yearStart, yearLength, isLeap, Bool.and_eq_true, Bool.or_eq_true, beq_iff_eq,
    bne_iff_ne]
  split <;> omega

/-- A day: its number, its year and its place in the year, from zero. -/
structure Date where
  epochDay : Int
  year : Int
  dayOfYear : Nat
  deriving DecidableEq, Repr

namespace Date

/-- The year that holds a day. The mean length of a year gives it up to one. -/
def yearOf (epochDay : Int) : Int :=
  let guess := 1970 + 400 * epochDay / 146097
  if epochDay < yearStart guess then guess - 1
  else if yearStart (guess + 1) ≤ epochDay then guess + 1
  else guess

def ofEpochDay (epochDay : Int) : Date :=
  let year := yearOf epochDay
  ⟨epochDay, year, (epochDay - yearStart year).toNat⟩

def monthLengths (year : Int) : List Nat :=
  [31, if isLeap year then 29 else 28, 31, 30, 31, 30, 31, 31, 30, 31, 30, 31]

/-- The month and the day of a place in a list of months, both from zero. -/
def place (days : Nat) : List Nat → Nat × Nat
  | [] => (0, days)
  | length :: rest =>
    if days < length then (0, days)
    else
      let (month, day) := place (days - length) rest
      (month + 1, day)

/-- The month, from 1. -/
def month (d : Date) : Nat := (place d.dayOfYear (monthLengths d.year)).1 + 1

/-- The day of the month, from 1. -/
def day (d : Date) : Nat := (place d.dayOfYear (monthLengths d.year)).2 + 1

/-- The day of the year, from 1. -/
def ordinal (d : Date) : Nat := d.dayOfYear + 1

/-- Days since the last Sunday. The first day of the count was a Thursday. -/
def sinceSunday (d : Date) : Nat := ((d.epochDay + 4) % 7).toNat

/-- Days since the last Monday. -/
def sinceMonday (d : Date) : Nat := ((d.epochDay + 3) % 7).toNat

/-- The week of the year when weeks begin on Sunday; days before the first Sunday are in week 0. -/
def sundayWeek (d : Date) : Nat := (d.ordinal + 6 - d.sinceSunday) / 7

/-- The week of the year when weeks begin on Monday; days before the first Monday are in week 0. -/
def mondayWeek (d : Date) : Nat := (d.ordinal + 6 - d.sinceMonday) / 7

/-- The Thursday of the same week. The week belongs to its year. -/
def thursday (d : Date) : Date := ofEpochDay (d.epochDay - d.sinceMonday + 3)

def weekYear (d : Date) : Int := d.thursday.year

def isoWeek (d : Date) : Nat := d.thursday.dayOfYear / 7 + 1

end Date

end ProgressActions.Calendar
