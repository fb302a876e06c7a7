import ProgressActions.Calendar.Date
import ProgressActions.Number.Double
import ProgressActions.Text.Numeral
import ProgressActions.Toml.Node
import ProgressActions.Toml.Text

/-!
# Numbers and points of time of TOML documents

Underscores may stand between the digits of a number. Integers have 64 bits with a sign. A float must
not be too great for a double, and a date must exist.
-/

namespace ProgressActions.Toml

/-- The digits that go on a number, an underscore before a digit left out. -/
def moreDigits (isDigit : Char → Bool) : List Char → List Char × List Char
  | [] => ([], [])
  | '_' :: c :: rest =>
    if isDigit c then
      let (digits, after) := moreDigits isDigit rest
      (c :: digits, after)
    else ([], '_' :: c :: rest)
  | c :: rest =>
    if isDigit c then
      let (digits, after) := moreDigits isDigit rest
      (c :: digits, after)
    else ([], c :: rest)

/-- A run of digits, with zeros in front allowed. -/
def digits (isDigit : Char → Bool) : Reader (List Char)
  | c :: rest =>
    if isDigit c then
      let (more, after) := moreDigits isDigit rest
      some (c :: more, after)
    else none
  | [] => none

/-- A run of decimal digits that begins with a zero only if it is one. -/
def wholeDigits : Reader (List Char)
  | '0' :: rest => some (['0'], rest)
  | text => digits Char.isDigit text

/-- The sign in front of a number, true for a minus. -/
def sign : List Char → Bool × List Char
  | '-' :: rest => (true, rest)
  | '+' :: rest => (false, rest)
  | text => (false, text)

/-- A whole number within 64 bits. -/
def signedInteger? (negative : Bool) (magnitude : Nat) : Option Int :=
  if negative then
    if magnitude ≤ Nat.pow 2 63 then some (-(magnitude : Int)) else none
  else if magnitude < Nat.pow 2 63 then some magnitude
  else none

def baseInteger (base : Nat) (text : List Char) : Option (Int × List Char) := do
  let (run, after) ← digits (Text.isDigitOf base) text
  let value ← signedInteger? false (Text.basedValue base run)
  pure (value, after)

/-- An integer: decimal with a sign, or in another base without one. -/
def integer : Reader Int
  | '0' :: 'x' :: rest => baseInteger 16 rest
  | '0' :: 'o' :: rest => baseInteger 8 rest
  | '0' :: 'b' :: rest => baseInteger 2 rest
  | text => do
    let (negative, unsigned) := sign text
    let (run, after) ← wholeDigits unsigned
    let value ← signedInteger? negative (Text.digitsValue run)
    pure (value, after)

/-- The digits after a decimal point, if one stands here. -/
def fraction? (text : List Char) : Option (List Char × List Char) :=
  match text with
  | '.' :: rest => digits Char.isDigit rest
  | _ => none

/-- The exponent, if one stands here. -/
def exponent? (text : List Char) : Option (Int × List Char) :=
  match text with
  | c :: rest =>
    if c = 'e' ∨ c = 'E' then do
      let (negative, unsigned) := sign rest
      let (run, after) ← digits Char.isDigit unsigned
      let magnitude : Int := Text.digitsValue run
      pure (if negative then -magnitude else magnitude, after)
    else none
  | [] => none

/-- The exponent beyond which every positive float is infinite. -/
def maxExponent : Int := 400

/--
Whether a decimal number is too great for a double. The place of its first digit settles this except
near the greatest double, where the exact value does.
-/
def overflows (whole fraction : List Char) (exponent : Int) : Bool :=
  let significant := (whole ++ fraction).dropWhile (· == '0')
  let place := exponent - fraction.length + significant.length
  if significant = [] ∨ place < -maxExponent then false
  else if maxExponent < place then true
  else
    let scaled := exponent - fraction.length
    let value : Rat := Text.digitsValue significant
    let exact := if 0 ≤ scaled then value * Nat.pow 10 scaled.toNat else value / Nat.pow 10 (-scaled).toNat
    Number.Double.nearest exact == .infinite false

/-- A float of digits: with a fraction, an exponent or both. -/
def decimalFloat (text : List Char) : Option (Unit × List Char) := do
  let (negative, unsigned) := sign text
  let (whole, afterWhole) ← wholeDigits unsigned
  let (fraction, afterFraction) := (fraction? afterWhole).getD ([], afterWhole)
  let (exponent, after) := (exponent? afterFraction).getD (0, afterFraction)
  if after.length = afterWhole.length then none
  else if !negative && overflows whole fraction exponent then none
  else pure ((), after)

/-- The text after a word that has to come next. -/
def afterWord? (word : String) (text : List Char) : Option (List Char) :=
  if word.toList.isPrefixOf text then some (text.drop word.length) else none

def specialFloat (text : List Char) : Option (Unit × List Char) :=
  let unsigned := (sign text).2
  match afterWord? "inf" unsigned with
  | some after => some ((), after)
  | none => (afterWord? "nan" unsigned).map ((), ·)

def float (text : List Char) : Option (Unit × List Char) :=
  match decimalFloat text with
  | some read => some read
  | none => specialFloat text

/-- The number that exactly so many digits spell. -/
def exactDigits (count : Nat) (text : List Char) : Option (Nat × List Char) :=
  let run := text.take count
  if run.length = count ∧ run.all Char.isDigit then some (Text.digitsValue run, text.drop count)
  else none

def date (text : List Char) : Option (Unit × List Char) := do
  let (year, text) ← exactDigits 4 text
  let (month, text) ← exactDigits 2 (← afterChar? '-' text)
  let (day, text) ← exactDigits 2 (← afterChar? '-' text)
  let length ← if month = 0 then none else (Calendar.Date.monthLengths year)[month - 1]?
  if 1 ≤ day ∧ day ≤ length then pure ((), text) else none

/-- The hours and minutes of a time or of an offset. -/
def hourAndMinute (text : List Char) : Option (Unit × List Char) := do
  let (hour, text) ← exactDigits 2 text
  let (minute, text) ← exactDigits 2 (← afterChar? ':' text)
  if hour < 24 ∧ minute < 60 then pure ((), text) else none

/-- A time of day. A minute may have a leap second. -/
def timeOfDay (text : List Char) : Option (Unit × List Char) := do
  let (_, text) ← hourAndMinute text
  let (second, text) ← exactDigits 2 (← afterChar? ':' text)
  let text := match text with
    | '.' :: c :: rest => if c.isDigit then rest.dropWhile Char.isDigit else text
    | _ => text
  if second ≤ 60 then pure ((), text) else none

/-- The text after the offset of a local clock, if one stands here. -/
def afterOffset (text : List Char) : List Char :=
  match text with
  | 'Z' :: rest => rest
  | 'z' :: rest => rest
  | c :: rest =>
    if c = '+' ∨ c = '-' then ((hourAndMinute rest).map (·.2)).getD text else text
  | [] => text

/-- The text after a time of day that follows a date, if one stands here. -/
def afterTimePart (text : List Char) : List Char :=
  match text with
  | c :: rest =>
    if c = 'T' ∨ c = 't' ∨ c = ' ' then
      match timeOfDay rest with
      | some (_, after) => afterOffset after
      | none => text
    else text
  | [] => text

/-- A point of time: a date, perhaps with a time of day, or a time of day alone. -/
def moment (text : List Char) : Option (Unit × List Char) :=
  match date text with
  | some (_, after) => some ((), afterTimePart after)
  | none => timeOfDay text

def numberOrMoment : Reader Node := fun text ↦
  match moment text with
  | some (_, after) => some (.moment, after)
  | none =>
    match float text with
    | some (_, after) => some (.float, after)
    | none => (integer text).map fun (n, after) ↦ (.integer n, after)

def word : Reader Node := fun text ↦
  match afterWord? "true" text, afterWord? "false" text with
  | some after, _ => some (.boolean true, after)
  | none, some after => some (.boolean false, after)
  | none, none => (specialFloat text).map fun (_, after) ↦ (.float, after)

end ProgressActions.Toml
