import ProgressActions.Calendar.LocalTime
import ProgressActions.Calendar.Pattern
import ProgressActions.Text.Numeral

/-!
# Local time as text

Each item of a pattern is written from a local time; the text of a pattern is the texts of its items
in order. Names are English.
-/

namespace ProgressActions.Calendar

open Text

def monthNames : List String :=
  ["January", "February", "March", "April", "May", "June", "July", "August", "September",
   "October", "November", "December"]

/-- The names of the weekdays from Sunday. -/
def weekdayNames : List String :=
  ["Sunday", "Monday", "Tuesday", "Wednesday", "Thursday", "Friday", "Saturday"]

/-- A name in full or cut to three letters. -/
def nameText (names : List String) (index : Nat) (short : Bool) : List Char :=
  let name := (names.getD index "").toList
  if short then name.take 3 else name

def fieldText (width : Nat) (padding : Padding) (n : Nat) : List Char :=
  match padding with
  | .none => numeral n
  | .space => padStart width ' ' (numeral n)
  | .zero => padStart width '0' (numeral n)

/--
A number of two places. It is kept in one byte, and all above its units is one character counted on
from the digit zero, so that only numbers below 100 are shown in digits.
-/
def pairText (padding : Padding) (n : Nat) : List Char :=
  let byte := n % 256
  let units := Char.ofNat (48 + byte % 10)
  let tens := byte / 10
  match padding with
  | .none => if tens = 0 then [units] else [Char.ofNat (48 + tens), units]
  | .space => [if tens = 0 then ' ' else Char.ofNat (48 + tens), units]
  | .zero => [Char.ofNat (48 + tens), units]

/-- A year: four digits, and a sign outside of the years 0 to 9999. -/
def yearText (padding : Padding) (year : Int) : List Char :=
  let digits := numeral year.natAbs
  if 0 ≤ year ∧ year ≤ 9999 then fieldText 4 padding year.natAbs
  else
    let sign := if year < 0 then '-' else '+'
    match padding with
    | .none => sign :: digits
    | .space => padStart 5 ' ' (sign :: digits)
    | .zero => sign :: padStart 4 '0' digits

/-- The value of a field in its own form. -/
def numberText (t : LocalTime) (field : Field) (padding : Padding) : List Char :=
  let d := t.date
  match field with
  | .year => yearText padding d.year
  | .century => pairText padding (d.year / 100).toNat
  | .yearOfCentury => pairText padding (d.year % 100).toNat
  | .quarter => numeral ((d.month - 1) / 3 + 1)
  | .month => pairText padding d.month
  | .day => pairText padding d.day
  | .ordinal => fieldText 3 padding d.ordinal
  | .hour => pairText padding t.hour
  | .dialHour => pairText padding t.dialHour
  | .minute => pairText padding t.minute
  | .second => pairText padding t.second
  | .sinceSunday => numeral d.sinceSunday
  | .isoWeekday => numeral (d.sinceMonday + 1)
  | .sundayWeek => pairText padding d.sundayWeek
  | .mondayWeek => pairText padding d.mondayWeek
  | .weekYear => yearText padding d.weekYear
  | .weekYearOfCentury => pairText padding (d.weekYear % 100).toNat
  | .isoWeek => pairText padding d.isoWeek
  | .nanosecond => fieldText 9 padding t.nanosecond
  | .unixSeconds => fieldText 9 padding t.unixSeconds.toNat

/-- The first digits of the fraction of a second. -/
def fractionText (count : Nat) (nanosecond : Nat) : List Char :=
  paddedNumeral count (nanosecond / Nat.pow 10 (9 - count))

/-- The fewest of 3, 6 or 9 digits that write a fraction exactly. -/
def exactDigits (nanosecond : Nat) : Nat :=
  if nanosecond % 1000000 = 0 then 3 else if nanosecond % 1000 = 0 then 6 else 9

/-- The distance from universal time. Without seconds it is rounded to the nearest minute. -/
def offsetText (style : OffsetStyle) (offset : Int) : List Char :=
  let sign := if offset < 0 then '-' else '+'
  let size := offset.natAbs
  let hours := paddedNumeral 2 (size / 3600)
  let minutes := paddedNumeral 2 (size / 60 % 60)
  let seconds := paddedNumeral 2 (size % 60)
  let rounded := (size + 30) / 60
  let roundedHours := paddedNumeral 2 (rounded / 60)
  let roundedMinutes := paddedNumeral 2 (rounded % 60)
  match style with
  | .compact => sign :: roundedHours ++ roundedMinutes
  | .minutes => sign :: roundedHours ++ ':' :: roundedMinutes
  | .seconds => sign :: hours ++ ':' :: minutes ++ ':' :: seconds
  | .hours => sign :: hours
  | .shortest =>
    if size % 60 = 0 then sign :: hours ++ ':' :: minutes
    else sign :: hours ++ ':' :: minutes ++ ':' :: seconds

/-- The text of an item; nothing for a form that cannot be written. -/
def itemText? (t : LocalTime) : Item → Option (List Char)
  | .literal c => some [c]
  | .number field padding => some (numberText t field padding)
  | .monthName short => some (nameText monthNames (t.date.month - 1) short)
  | .weekdayName short => some (nameText weekdayNames t.date.sinceSunday short)
  | .halfDay capital =>
    let text := if t.isAfternoon then "PM" else "AM"
    some ((if capital then text else text.map Char.toLower).toList)
  | .fraction =>
    if t.nanosecond = 0 then some []
    else some ('.' :: fractionText (exactDigits t.nanosecond) t.nanosecond)
  | .fractionDigits count point =>
    let digits := fractionText count t.nanosecond
    some (if point then '.' :: digits else digits)
  | .offset style => some (offsetText style t.offset)
  | .unwritable => none

/-- The texts of the items in order; nothing if one of them cannot be written. -/
def itemsText? (t : LocalTime) : List Item → Option (List Char)
  | [] => some []
  | item :: rest => (itemText? t item).bind fun text ↦ (itemsText? t rest).map (text ++ ·)

/-- What stands in the place of a time that is not known, or of a pattern that is refused. -/
def placeholder : List Char := "????-??-?? ??:??:??".toList

/-- A time by a pattern. The result is missing only for a form that cannot be written. -/
def timeText? (pattern : List Char) (now : Option LocalTime) : Option (List Char) :=
  match parsePattern? pattern, now with
  | some items, some t => itemsText? t items
  | _, _ => some placeholder

@[simp] theorem timeText?_none (pattern : List Char) : timeText? pattern none = some placeholder := by
  unfold timeText?
  split <;> simp_all

end ProgressActions.Calendar
