import ProgressActions.Calendar.Text
import ProgressActions.Programs.Basic

/-!
# The date

`date` shows a moment by a pattern. The moment is the present one or is spelled by words: a date, a time
of day, and steps from there.
-/

namespace ProgressActions.Programs

namespace Clock

open Calendar Text

/-! ## Patterns -/

/-- The text for a letter of a pattern, with the width and the filling that it has by itself. -/
def directive? (t : LocalTime) (letter : Char) : Option (Octets × Nat × Char) :=
  let shownBy (pattern : String) : Octets := (timeText? pattern.toList (some t)).getD []
  let number (n width : Nat) : Option (Octets × Nat × Char) := some (numeral n, width, '0')
  let text (pattern : String) : Option (Octets × Nat × Char) := some (shownBy pattern, 0, ' ')
  match letter with
  | 'a' => text "%a"
  | 'A' => text "%A"
  | 'b' => text "%b"
  | 'h' => text "%b"
  | 'B' => text "%B"
  | 'c' => text "%a %b %e %H:%M:%S %Y"
  | 'C' => number (t.date.year / 100).toNat 2
  | 'd' => number t.date.day 2
  | 'D' => text "%m/%d/%y"
  | 'e' => some (numeral t.date.day, 2, ' ')
  | 'F' => text "%Y-%m-%d"
  | 'g' => number (t.date.weekYear % 100).toNat 2
  | 'G' => number t.date.weekYear.toNat 4
  | 'H' => number t.hour 2
  | 'I' => number t.dialHour 2
  | 'j' => number t.date.ordinal 3
  | 'k' => some (numeral t.hour, 2, ' ')
  | 'l' => some (numeral t.dialHour, 2, ' ')
  | 'm' => number t.date.month 2
  | 'M' => number t.minute 2
  | 'n' => some (['\n'], 0, ' ')
  | 'N' => number t.nanosecond 9
  | 'p' => text "%p"
  | 'P' => text "%P"
  | 'q' => number ((t.date.month - 1) / 3 + 1) 1
  | 'r' => text "%I:%M:%S %p"
  | 'R' => text "%H:%M"
  | 's' => some (Octets.ofInt t.unixSeconds, 1, '0')
  | 'S' => number t.second 2
  | 't' => some (['\t'], 0, ' ')
  | 'T' => text "%H:%M:%S"
  | 'X' => text "%H:%M:%S"
  | 'u' => number (t.date.sinceMonday + 1) 1
  | 'U' => number t.date.sundayWeek 2
  | 'V' => number t.date.isoWeek 2
  | 'w' => number t.date.sinceSunday 1
  | 'W' => number t.date.mondayWeek 2
  | 'x' => text "%m/%d/%y"
  | 'y' => number (t.date.year % 100).toNat 2
  | 'Y' => some (Octets.ofInt t.date.year, 4, '0')
  | 'z' => text "%z"
  | 'Z' => some ("UTC".toList, 0, ' ')
  | '%' => some (['%'], 0, ' ')
  | _ => none

def fitted (flags : Octets) (width : Nat) (text : Octets) (usualWidth : Nat) (fill : Char) : Octets :=
  let cased := if flags.contains '^' then text.map Char.toUpper
    else if flags.contains '#' then
      (if text.any Char.isLower ∧ text.length ≠ 3 ∨ text.any Char.isLower then text.map Char.toUpper
       else text.map Char.toLower)
    else text
  match (flags.filter fun c ↦ "-_0+".toList.contains c).getLast? with
  | some '-' => cased
  | some '_' => padStart (if width = 0 then usualWidth else width) ' ' cased
  | some _ => padStart (if width = 0 then usualWidth else width) '0' cased
  | none => padStart (if width = 0 then usualWidth else width) fill cased

def shown (t : LocalTime) : (limit : Nat) → Octets → Octets
  | 0, _ => []
  | _ + 1, [] => []
  | limit + 1, '%' :: rest =>
    let flags := rest.takeWhile "-_0+^#".toList.contains
    let afterFlags := rest.drop flags.length
    let digits := afterFlags.takeWhile Char.isDigit
    let afterDigits := afterFlags.drop digits.length
    let colons := afterDigits.takeWhile (· == ':')
    match afterDigits.drop colons.length with
    | [] => '%' :: rest
    | letter :: more =>
      let colonText : Option Octets := if colons = [] then none
        else if letter = 'z' then timeText? ('%' :: colons ++ ['z']) (some t)
        else some ('%' :: rest.take (rest.length - more.length))
      match colonText, directive? t letter with
      | some text, _ => text ++ shown t limit more
      | none, some (text, width, fill) =>
        fitted flags (digitsValue digits) text width fill ++ shown t limit more
      | none, none => '%' :: rest.take (rest.length - more.length) ++ shown t limit more
  | limit + 1, c :: rest => c :: shown t limit rest

/-! ## Moments in words -/

/-- A moment that is being spelled: the day, the second of the day, and steps from there. -/
structure Spelled where
  day : Int
  second : Int
  hasTime : Bool := false
  hasDate : Bool := false
  /-- Seconds east of universal time. -/
  offset : Int := 0
  months : Int := 0
  seconds : Int := 0

def dayOf? (year month day : Nat) : Option Int :=
  let lengths := Date.monthLengths year
  match lengths[month - 1]? with
  | some length =>
    if 1 ≤ month ∧ 1 ≤ day ∧ day ≤ length then
      some (yearStart year + ((lengths.take (month - 1)).foldl (· + ·) 0 + day - 1 : Nat))
    else none
  | none => none

def numerals? (mark : Char) (word : Octets) : Option (List Nat) := (Octets.splitAt mark word).mapM natural?

/-- The number of a name by its first three letters. -/
def numberOf? (names : List String) (word : Octets) : Option Nat :=
  let lower := word.map Char.toLower
  names.findIdx? fun name ↦
    let full := name.toList.map Char.toLower
    lower.length ≥ 3 && (lower == full.take 3 || lower == full)

/-- The length of a step in seconds, or in months. -/
def unit? (word : Octets) : Option (Int × Int) :=
  let lower := word.map Char.toLower
  let single := if lower.getLast? = some 's' ∧ lower.length > 1 then lower.dropLast else lower
  match String.ofList single with
  | "second" => some (1, 0)
  | "sec" => some (1, 0)
  | "minute" => some (60, 0)
  | "min" => some (60, 0)
  | "hour" => some (3600, 0)
  | "day" => some (86400, 0)
  | "week" => some (604800, 0)
  | "fortnight" => some (1209600, 0)
  | "month" => some (0, 1)
  | "year" => some (0, 12)
  | _ => none

def timeOfDay? (word : Octets) : Option Int :=
  match numerals? ':' (word.takeWhile (· != '.')) with
  | some [h, m] => if h < 24 ∧ m < 60 then some (3600 * h + 60 * m : Nat) else none
  | some [h, m, s] => if h < 24 ∧ m < 60 ∧ s ≤ 60 then some (3600 * h + 60 * m + s : Nat) else none
  | _ => none

def date? (word : Octets) : Option Int :=
  match numerals? '-' word with
  | some [y, m, d] => dayOf? y m d
  | _ =>
    match numerals? '/' word with
    | some [m, d, y] => if d > 31 then dayOf? m d y else dayOf? y m d
    | _ =>
      if word.length = 8 ∧ isNumeral word then
        let n := digitsValue word
        dayOf? (n / 10000) (n / 100 % 100) (n % 100)
      else none

/-- The distance from universal time that a word spells. -/
def offset? (word : Octets) : Option Int :=
  match word with
  | sign :: rest =>
    if (sign = '+' ∨ sign = '-') ∧ rest.all (fun c ↦ c.isDigit || c == ':') then
      let digits := rest.filter Char.isDigit
      let size : Option Int := match digits.length with
        | 2 => some (3600 * digitsValue digits : Nat)
        | 4 => some (3600 * (digitsValue digits / 100) + 60 * (digitsValue digits % 100) : Nat)
        | _ => none
      size.map fun n ↦ if sign = '-' then -n else n
    else none
  | [] => none

def step (today : Int) (s : Spelled) (word : Octets) (rest : List Octets) : Option (Spelled × List Octets) :=
  let lower := word.map Char.toLower
  let bare := lower.filter (· != ',')
  let signed? : Option Int := match word with
    | '+' :: digits => (natural? digits).map fun n ↦ (n : Int)
    | '-' :: digits => (natural? digits).map fun n ↦ -(n : Int)
    | _ => (natural? word).map fun n ↦ (n : Int)
  match String.ofList bare with
  | "now" => some (s, rest)
  | "today" => some (s, rest)
  | "utc" => some (s, rest)
  | "gmt" => some (s, rest)
  | "z" => some (s, rest)
  | "tomorrow" => some ({ s with seconds := s.seconds + 86400 }, rest)
  | "yesterday" => some ({ s with seconds := s.seconds - 86400 }, rest)
  | "midnight" => some ({ s with second := 0, hasTime := true }, rest)
  | "noon" => some ({ s with second := 43200, hasTime := true }, rest)
  | "ago" => some ({ s with seconds := -s.seconds, months := -s.months }, rest)
  | _ =>
    let amount : Option (Int × List Octets × Octets) := match signed?, rest with
      | some n, unit :: more => some (n, more, unit)
      | _, _ =>
        if lower = "next".toList then rest.head?.map fun unit ↦ (1, rest.drop 1, unit)
        else if lower = "last".toList then rest.head?.map fun unit ↦ (-1, rest.drop 1, unit)
        else
          let digits := word.takeWhile fun c ↦ c.isDigit || c == '+' || c == '-'
          let unit := word.drop digits.length
          let n : Option Int := match digits with
            | '-' :: ds => (natural? ds).map fun n ↦ -(n : Int)
            | '+' :: ds => (natural? ds).map fun n ↦ (n : Int)
            | ds => (natural? ds).map fun n ↦ (n : Int)
          if unit = [] then none else n.map fun n ↦ (n, rest, unit)
    match amount.bind fun (n, more, unit) ↦ (unit? unit).map fun (seconds, months) ↦
        ({ s with seconds := s.seconds + n * seconds, months := s.months + n * months }, more) with
    | some found => some found
    | none =>
      match unit? bare with
      | some (seconds, months) =>
        some ({ s with seconds := s.seconds + seconds, months := s.months + months }, rest)
      | none =>
        match date? word, timeOfDay? word with
        | some day, _ => some ({ s with day, hasDate := true }, rest)
        | none, some second => some ({ s with second, hasTime := true }, rest)
        | none, none =>
          match offset? word with
          | some offset => some ({ s with offset }, rest)
          | none =>
            match numberOf? weekdayNames bare, signed?, rest with
            | some weekday, _, _ =>
              let since : Int := ((today + 4) % 7)
              let ahead := ((weekday : Int) - since) % 7
              if rest.isEmpty then some ({ s with day := today + ahead, hasDate := true }, rest)
              else some (s, rest)
            | none, some day, month :: year :: more =>
              match numberOf? monthNames month, natural? year with
              | some m, some y =>
                (dayOf? y (m + 1) day.toNat).map fun day ↦ ({ s with day, hasDate := true }, more)
              | _, _ => none
            | none, _, day :: year :: more =>
              match numberOf? monthNames bare, natural? (day.filter (· != ',')), natural? year with
              | some m, some d, some y =>
                (dayOf? y (m + 1) d).map fun day ↦ ({ s with day, hasDate := true }, more)
              | _, _, _ => none
            | _, _, _ => none

def steps (today : Int) : (limit : Nat) → Spelled → List Octets → Option Spelled
  | 0, _, _ => none
  | _ + 1, s, [] => some s
  | limit + 1, s, word :: rest => do
    let (next, more) ← step today s word rest
    steps today limit next more

def laterMonths (day months : Int) : Int :=
  if months = 0 then day
  else
    let d := Date.ofEpochDay day
    let all := 12 * d.year + (d.month - 1 : Nat) + months
    let year := all / 12
    yearStart year + (((Date.monthLengths year).take (all % 12).toNat).foldl (· + ·) 0 + d.day - 1 : Nat)

/-- The moment that a text spells, in Unix seconds. -/
def moment? (now : Int) (text : Octets) : Option Int :=
  match text with
  | '@' :: rest =>
    let (isNegative, digits) := match rest with
      | '-' :: digits => (true, digits)
      | _ => (false, rest)
    (natural? (digits.takeWhile (· != '.'))).map fun n ↦ if isNegative then -(n : Int) else n
  | _ =>
    let spaced := text.map fun c ↦ if c = 'T' ∧ (date? (text.takeWhile (· != 'T'))).isSome then ' ' else c
    let withZone := if spaced.getLast? = some 'Z' then spaced.dropLast ++ " Z".toList else spaced
    let words := (Octets.splitAt ' ' withZone).filter (· != [])
    let parted := words.flatMap fun word ↦
      let time := word.takeWhile fun c ↦ c.isDigit || c == ':' || c == '.'
      let zone := word.drop time.length
      if (timeOfDay? time).isSome ∧ (offset? zone).isSome then [time, zone] else [word]
    let today := now / 86400
    (steps today (parted.length + 2) { day := today, second := now % 86400 } parted).map fun s ↦
      let second := if s.hasTime then s.second else if s.hasDate ∨ words = [] then 0 else s.second
      86400 * laterMonths s.day s.months + second - s.offset + s.seconds

def usage : Usage :=
  { choices :=
      [{ key := "d", names := ["date"], demand := .value }, { key := "debug" },
       { key := "f", names := ["file"], demand := .value },
       { key := "I", names := ["iso-8601"], demand := .attached },
       { key := "R", names := ["rfc-email"] }, { key := "rfc-3339", demand := .value },
       { key := "r", names := ["reference"], demand := .value },
       { key := "s", names := ["set"], demand := .value },
       { key := "u", names := ["utc", "universal"] }] }

def pattern (g : Given) : String :=
  let ofPrecision (separator : String) (precision : String) : String :=
    match precision with
    | "hours" => "%Y-%m-%d" ++ separator ++ "%H%:z"
    | "minutes" => "%Y-%m-%d" ++ separator ++ "%H:%M%:z"
    | "seconds" => "%Y-%m-%d" ++ separator ++ "%H:%M:%S%:z"
    | "ns" => "%Y-%m-%d" ++ separator ++ "%H:%M:%S,%N%:z"
    | _ => "%Y-%m-%d"
  match g.last? ["I", "R", "rfc-3339"] with
  | some "I" => ofPrecision "T" (String.ofList ((g.value? "I").getD []))
  | some "R" => "%a, %d %b %Y %H:%M:%S %z"
  | some _ => ofPrecision " " (String.ofList ((g.value? "rfc-3339").getD []))
  | none => "%a %b %e %H:%M:%S %Z %Y"

end Clock

def date : Program := fun name arguments ↦ do
  let given ← Job.understand Clock.usage name arguments
  let p ← get
  let isChosen := given.has "d" || given.has "r" || given.has "f"
  let moment ← match given.value? "d", given.value? "r" with
    | some text, _ =>
      match Clock.moment? p.machine.now text with
      | some n => pure n
      | none => Job.fail name ("invalid date ".toList ++ Quoting.plain text)
    | none, some file =>
      match p.node? file with
      | .ok id => pure (p.machine.node id).modified
      | .error cause => Job.fail name (Job.refusal (Quoting.needed file) cause)
    | none, none => pure p.machine.now
  let format ← match given.words with
    | [] => pure (Clock.pattern given).toList
    | ['+' :: text] => pure text
    | [word] =>
      if isChosen then
        Job.misused name ("the argument ".toList ++ Quoting.plain word ++ (" lacks a leading '+';\n" ++
          "when using an option to specify date(s), any non-option\n" ++
          "argument must be a format string beginning with '+'").toList)
      else Job.fail name ("invalid date ".toList ++ Quoting.plain word)
    | _ :: extra :: _ => Job.extraOperand name extra
  let time : Calendar.LocalTime := { unixSeconds := moment, nanosecond := 0, offset := 0 }
  Job.put name (Clock.shown time (format.length + 1) format ++ ['\n'])

end ProgressActions.Programs
