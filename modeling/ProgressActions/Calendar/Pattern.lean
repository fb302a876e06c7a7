/-!
# Time patterns

A pattern is text with percent directives. Numeric directives admit one modifier of their padding;
all others are written exactly one way. A pattern with a directive that is not known is refused as a
whole.
-/

namespace ProgressActions.Calendar

/-- What fills a number that is shorter than its field. -/
inductive Padding where
  | none
  | space
  | zero
  deriving DecidableEq, Repr

/-- Numbers that a pattern can ask for. -/
inductive Field where
  | year | century | yearOfCentury | quarter | month | day | ordinal
  | hour | dialHour | minute | second | sinceSunday | isoWeekday
  | sundayWeek | mondayWeek | weekYear | weekYearOfCentury | isoWeek | nanosecond | unixSeconds
  deriving DecidableEq, Repr

/-- How the distance from universal time is written. -/
inductive OffsetStyle where
  /-- Hours and minutes. -/
  | compact
  /-- Hours and minutes with a colon. -/
  | minutes
  /-- Hours, minutes and seconds with colons. -/
  | seconds
  /-- Hours only. -/
  | hours
  /-- Hours and minutes with a colon, and seconds when they are not zero. -/
  | shortest
  deriving DecidableEq, Repr

inductive Item where
  | literal (c : Char)
  | number (field : Field) (padding : Padding)
  | monthName (short : Bool)
  | weekdayName (short : Bool)
  | halfDay (capital : Bool)
  /-- A point and as few of 3, 6 or 9 digits as are exact; nothing for a whole second. -/
  | fraction
  /-- The first 3, 6 or 9 digits of the fraction, perhaps after a point. -/
  | fractionDigits (count : Nat) (point : Bool)
  | offset (style : OffsetStyle)
  /-- A form that is only ever read and cannot be written. -/
  | unwritable
  deriving DecidableEq, Repr

namespace Item

/-- The number that a letter asks for, with the padding it has by itself. -/
def ofNumericLetter? : Char → Option (Field × Padding)
  | 'Y' => some (.year, .zero)
  | 'C' => some (.century, .zero)
  | 'y' => some (.yearOfCentury, .zero)
  | 'q' => some (.quarter, .none)
  | 'm' => some (.month, .zero)
  | 'd' => some (.day, .zero)
  | 'e' => some (.day, .space)
  | 'j' => some (.ordinal, .zero)
  | 'H' => some (.hour, .zero)
  | 'k' => some (.hour, .space)
  | 'I' => some (.dialHour, .zero)
  | 'l' => some (.dialHour, .space)
  | 'M' => some (.minute, .zero)
  | 'S' => some (.second, .zero)
  | 'w' => some (.sinceSunday, .none)
  | 'u' => some (.isoWeekday, .none)
  | 'U' => some (.sundayWeek, .zero)
  | 'W' => some (.mondayWeek, .zero)
  | 'G' => some (.weekYear, .zero)
  | 'g' => some (.weekYearOfCentury, .zero)
  | 'V' => some (.isoWeek, .zero)
  | 'f' => some (.nanosecond, .zero)
  | 's' => some (.unixSeconds, .none)
  | _ => none

/-- Hours, minutes and seconds with colons. -/
def clock : List Item :=
  [.number .hour .zero, .literal ':', .number .minute .zero, .literal ':', .number .second .zero]

/-- Year, month and day with hyphens. -/
def isoDate : List Item :=
  [.number .year .zero, .literal '-', .number .month .zero, .literal '-', .number .day .zero]

/-- Month, day and year with slashes. -/
def slashDate : List Item :=
  [.number .month .zero, .literal '/', .number .day .zero, .literal '/',
   .number .yearOfCentury .zero]

def ofLetter? : Char → Option (List Item)
  | 'b' => some [.monthName true]
  | 'h' => some [.monthName true]
  | 'B' => some [.monthName false]
  | 'a' => some [.weekdayName true]
  | 'A' => some [.weekdayName false]
  | 'p' => some [.halfDay true]
  | 'P' => some [.halfDay false]
  | 'z' => some [.offset .compact]
  | 'Z' => some [.offset .shortest]
  | 'D' => some slashDate
  | 'x' => some slashDate
  | 'F' => some isoDate
  | 'v' => some [.number .day .space, .literal '-', .monthName true, .literal '-',
      .number .year .zero]
  | 'R' => some [.number .hour .zero, .literal ':', .number .minute .zero]
  | 'T' => some clock
  | 'X' => some clock
  | 'r' => some [.number .dialHour .zero, .literal ':', .number .minute .zero, .literal ':',
      .number .second .zero, .literal ' ', .halfDay true]
  | 'c' => some ([.weekdayName true, .literal ' ', .monthName true, .literal ' ',
      .number .day .space, .literal ' '] ++ clock ++ [.literal ' ', .number .year .zero])
  | '+' => some (isoDate ++ [.literal 'T'] ++ clock ++ [.fraction, .offset .minutes])
  | 'n' => some [.literal '\n']
  | 't' => some [.literal '\t']
  | '%' => some [.literal '%']
  | _ => none

def ofModifier? : Char → Option Padding
  | '-' => some .none
  | '_' => some .space
  | '0' => some .zero
  | _ => none

/-- The digits of a fraction that a pattern can ask for. -/
def ofDigitCount? : Char → Option Nat
  | '3' => some 3
  | '6' => some 6
  | '9' => some 9
  | _ => none

/-- The directive at the start of the text after a percent sign, and the number of its characters. -/
def directive? : List Char → Option (List Item × Nat)
  | ':' :: ':' :: ':' :: 'z' :: _ => some ([.offset .hours], 4)
  | ':' :: ':' :: 'z' :: _ => some ([.offset .seconds], 3)
  | ':' :: 'z' :: _ => some ([.offset .minutes], 2)
  | '.' :: 'f' :: _ => some ([.fraction], 2)
  | '.' :: digit :: 'f' :: _ => (ofDigitCount? digit).map fun n ↦ ([.fractionDigits n true], 3)
  | '#' :: 'z' :: _ => some ([.unwritable], 2)
  | c :: rest =>
    match ofModifier? c, rest with
    | some padding, letter :: _ =>
      (ofNumericLetter? letter).map fun (field, _) ↦ ([.number field padding], 2)
    | some _, [] => none
    | none, _ =>
      match ofDigitCount? c, rest with
      | some n, 'f' :: _ => some ([.fractionDigits n false], 2)
      | _, _ =>
        match ofNumericLetter? c with
        | some (field, padding) => some ([.number field padding], 1)
        | none => (ofLetter? c).map fun items ↦ (items, 1)
  | [] => none

end Item

/-- The items of a pattern, or nothing when one directive of it is not known. -/
def parsePattern? : List Char → Option (List Item)
  | [] => some []
  | '%' :: rest =>
    match Item.directive? rest with
    | none => none
    | some (items, length) => (parsePattern? (rest.drop length)).map (items ++ ·)
  | c :: rest => (parsePattern? rest).map (.literal c :: ·)
termination_by pattern => pattern.length

end ProgressActions.Calendar
