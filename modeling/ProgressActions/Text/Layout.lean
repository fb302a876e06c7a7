import ProgressActions.Number.Floating

/-!
# Layouts of texts and numbers

A conversion of a format lays out a text or a number: in a width, on one side, filled up, with a sign, and
with a precision.
-/

namespace ProgressActions.Text

open Number

/-- How something is laid out. -/
structure Layout where
  leftAligned : Bool := false
  zeroFilled : Bool := false
  /-- What stands in front of a number that is not negative. -/
  sign : Octets := []
  /-- Whether the base of a number or a point at its end is shown. -/
  isAlternate : Bool := false
  width : Nat := 0
  precision : Option Nat := none
  deriving DecidableEq, Repr

namespace Layout

def isFlag (c : Char) : Bool := "-0+ #".toList.contains c

def ofFlags (flags : Octets) : Layout :=
  { leftAligned := flags.contains '-'
    zeroFilled := flags.contains '0'
    sign := if flags.contains '+' then ['+'] else if flags.contains ' ' then [' '] else []
    isAlternate := flags.contains '#' }

/-- A layout in a width; a negative width asks for the left side. -/
def withWidth (l : Layout) (width : Int) : Layout :=
  { l with width := width.natAbs, leftAligned := l.leftAligned || width < 0 }

/-- A layout with a precision; a negative one counts as none. -/
def withPrecision (l : Layout) (precision : Int) : Layout :=
  { l with precision := if precision < 0 then none else some precision.toNat }

/-- A text brought to the width of a layout. -/
def fit (l : Layout) (text : Octets) : Octets :=
  if l.leftAligned then text ++ List.replicate (l.width - text.length) ' '
  else padStart l.width ' ' text

theorem length_fit (l : Layout) (text : Octets) : (l.fit text).length = max l.width text.length := by
  unfold fit
  split
  · simp only [List.length_append, List.length_replicate]
    omega
  · exact length_padStart _ _ _

/-- The front of a text, as much as the precision lets through, in a layout. -/
def fitText (l : Layout) (text : Octets) : Octets :=
  l.fit (match l.precision with
    | some n => text.take n
    | none => text)

/-- A sign and digits in a layout, which may be filled up with zeros between them. -/
def fitDigits (l : Layout) (fills : Bool) (sign digits : Octets) : Octets :=
  if fills && l.zeroFilled && !l.leftAligned then
    sign ++ padStart (l.width - sign.length) '0' digits
  else l.fit (sign ++ digits)

/-- The digits of a whole number, as many as the precision asks for at least. -/
def wholeDigits (l : Layout) (digits : Octets) : Octets :=
  match l.precision with
  | none => digits
  | some 0 => if digits = ['0'] then [] else digits
  | some n => padStart n '0' digits

/-- A whole number with a sign in a layout. -/
def fitSigned (l : Layout) (n : Int) : Octets :=
  l.fitDigits l.precision.isNone (if n < 0 then ['-'] else l.sign) (l.wholeDigits (numeral n.natAbs))

/-- A whole number without a sign in a layout, by the letter of a conversion: in base eight, ten or
sixteen. -/
def fitUnsigned (l : Layout) (letter : Char) (n : Nat) : Octets :=
  match letter with
  | 'o' =>
    let digits := l.wholeDigits (Nat.toDigits 8 n)
    let shown := if l.isAlternate ∧ digits.head? ≠ some '0' then '0' :: digits else digits
    l.fitDigits l.precision.isNone [] shown
  | 'x' =>
    l.fitDigits l.precision.isNone (if l.isAlternate ∧ n ≠ 0 then ['0', 'x'] else [])
      (l.wholeDigits (Nat.toDigits 16 n))
  | 'X' =>
    l.fitDigits l.precision.isNone (if l.isAlternate ∧ n ≠ 0 then ['0', 'X'] else [])
      ((l.wholeDigits (Nat.toDigits 16 n)).map Char.toUpper)
  | _ => l.fitDigits l.precision.isNone [] (l.wholeDigits (numeral n))

/-- A floating number in a layout, by the letter of a conversion. -/
def fitFloating (l : Layout) (p : Precision) (letter : Char) (value : Floating) : Octets :=
  let places := l.precision.getD 6
  let digits : Octets := match value with
    | .nan _ => "nan".toList
    | .infinite _ => "inf".toList
    | .finite _ q =>
      match letter.toLower with
      | 'f' => Floating.fixedText l.isAlternate places q
      | 'e' => Floating.scientificText l.isAlternate places q
      | 'g' => Floating.generalText l.isAlternate places q
      | _ => Floating.hexText p l.isAlternate l.precision q
  let sign := if value.isNegative then ['-'] else l.sign
  let isFinite := match value with
    | .finite _ _ => true
    | _ => false
  let laid := match letter.toLower, digits with
    | 'a', '0' :: 'x' :: rest =>
      if isFinite then l.fitDigits true (sign ++ ['0', 'x']) rest else l.fitDigits false sign digits
    | _, _ => l.fitDigits isFinite sign digits
  if letter.isUpper then laid.map Char.toUpper else laid

end Layout

end ProgressActions.Text
