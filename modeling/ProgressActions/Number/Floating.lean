import ProgressActions.Number.Double
import ProgressActions.Octets
import ProgressActions.Text.Based

/-!
# Floating numbers with signs, and their texts

A floating number keeps its sign even when it is zero. Its digits are made from its exact value and
rounded once. Texts spell floating numbers with a fixed number of places, with an exponent of ten, in the
shorter of both ways, or in base sixteen.
-/

namespace ProgressActions.Number

inductive Floating where
  | nan (negative : Bool)
  | infinite (negative : Bool)
  | finite (negative : Bool) (magnitude : Rat)
  deriving DecidableEq

/-- A format of floating numbers: how many bits are kept, and where the last bit may stand at the
lowest. -/
structure Precision where
  bits : Nat
  lowest : Int

namespace Precision

def double : Precision := ⟨53, -1074⟩

/-- Numbers with eleven bits more. -/
def extended : Precision := ⟨64, -16445⟩

def lastPlace (p : Precision) (q : Rat) : Int :=
  max (Double.binaryExponent q.num.natAbs q.den - (p.bits - 1 : Nat)) p.lowest

/-- The number in a format that is next to a number. -/
def nearest (p : Precision) (negative : Bool) (magnitude : Rat) : Floating :=
  if magnitude = 0 then .finite negative 0
  else
    let value := Double.roundToPlace (p.lastPlace magnitude) magnitude
    let bound : Nat := Nat.pow 2 (if p.bits = 53 then 1024 else 16384)
    if (bound : Rat) ≤ value then .infinite negative else .finite negative value

end Precision

namespace Floating

def isNegative : Floating → Bool
  | nan negative => negative
  | infinite negative => negative
  | finite negative _ => negative

/-- The exact value of a number; without one it counts as zero. -/
def toRat : Floating → Rat
  | finite negative magnitude => if negative then -magnitude else magnitude
  | _ => 0

/-- The floating number in a format that is next to a value. -/
def ofRat (p : Precision) (q : Rat) : Floating := p.nearest (q < 0) (if q < 0 then -q else q)

/-! ## Reading -/

/-- The whole number that a sign and digits spell, and how long they are; without digits it is missing. -/
def exponent? (text : Octets) : Option (Int × Nat) :=
  let (negative, digits, signs) := match text with
    | '-' :: rest => (true, rest, 1)
    | '+' :: rest => (false, rest, 1)
    | _ => (false, text, 0)
  let run := digits.takeWhile Char.isDigit
  if run = [] then none
  else
    let n : Int := Text.digitsValue (run.take 7)
    some (if negative then -n else n, signs + run.length)

def power (base : Nat) (exponent : Int) : Rat :=
  if 0 ≤ exponent then (Nat.pow base exponent.toNat : Rat) else 1 / (Nat.pow base (-exponent).toNat : Rat)

/-- The magnitude in front of a text that has digits of a base, a point among them and an exponent after
them, and how long all that is. -/
def digits? (base : Nat) (mark : Char) (radix : Nat) (text : Octets) : Option (Rat × Nat) :=
  let isDigit := Text.isDigitOf base
  let whole := text.takeWhile isDigit
  let (places, length) := match text.drop whole.length with
    | '.' :: rest =>
      let found := rest.takeWhile isDigit
      (found, whole.length + 1 + found.length)
    | _ => ([], whole.length)
  if whole = [] ∧ places = [] then none
  else
    let all := whole ++ places
    let n := Text.basedValue base all
    let (shift, extra) := match text.drop length with
      | c :: rest =>
        if c.toLower = mark then
          match exponent? rest with
          | some (e, count) => (e, count + 1)
          | none => (0, 0)
        else (0, 0)
      | [] => (0, 0)
    -- An exponent far beyond every format is as good as the largest one.
    let bounded := max (-40000 : Int) (min shift 40000)
    some (if n = 0 then 0 else (n : Rat) / power base places.length * power radix bounded, length + extra)

/-- The number in front of a text, after a sign and blanks, and what follows it. -/
def leading? (p : Precision) (text : Octets) : Option (Floating × Octets) :=
  let start := text.dropWhile fun c ↦ " \t\n\x0b\x0c\x0d".toList.contains c
  let (negative, body) := match start with
    | '-' :: rest => (true, rest)
    | '+' :: rest => (false, rest)
    | _ => (false, start)
  let lower := body.map Char.toLower
  let names (word : String) : Bool := word.toList.isPrefixOf lower
  if names "infinity" then some (.infinite negative, body.drop 8)
  else if names "inf" then some (.infinite negative, body.drop 3)
  else if names "nan" then
    let rest := body.drop 3
    match rest with
    | '(' :: more =>
      let name := more.takeWhile fun c ↦ c.isAlphanum || c == '_'
      if (more.drop name.length).head? = some ')' then some (.nan negative, more.drop (name.length + 1))
      else some (.nan negative, rest)
    | _ => some (.nan negative, rest)
  else
    match if names "0x" then digits? 16 'p' 2 (body.drop 2) else none with
    | some (q, length) => some (p.nearest negative q, body.drop (length + 2))
    | none => (digits? 10 'e' 10 body).map fun (q, length) ↦ (p.nearest negative q, body.drop length)

/-! ## Writing -/

/-- The exponent of ten of the first digit of a positive number. -/
def decimalExponent (q : Rat) : Int :=
  let guess : Int := (Nat.toDigits 10 q.num.natAbs).length - (Nat.toDigits 10 q.den).length
  if power 10 guess ≤ q then guess else guess - 1

/-- The digits of a positive number, so many of them, and the exponent of ten of the first one. -/
def roundedDigits (count : Nat) (q : Rat) : Octets × Int :=
  let e := decimalExponent q
  let scaled := (roundHalfEven (q * power 10 ((count : Int) - 1 - e))).toNat
  if Nat.pow 10 count ≤ scaled then (Nat.toDigits 10 (scaled / 10), e + 1) else (Nat.toDigits 10 scaled, e)

/-- Digits with a point after the first so many; the point is left out if nothing follows it, unless it
is wanted. -/
def pointed (keepsPoint : Bool) (digits : Octets) (whole : Nat) : Octets :=
  let places := digits.drop whole
  digits.take whole ++ (if places = [] ∧ !keepsPoint then [] else '.' :: places)

def fixedText (keepsPoint : Bool) (places : Nat) (q : Rat) : Octets :=
  fixedPlaces places q ++ (if keepsPoint ∧ places = 0 then ['.'] else [])

/-- An exponent with its letter and sign and at least so many digits. -/
def exponentText (letter : Char) (width : Nat) (e : Int) : Octets :=
  letter :: (if e < 0 then '-' else '+') :: Text.paddedNumeral width e.natAbs

/-- A magnitude with one digit in front of the point and an exponent. -/
def scientificText (keepsPoint : Bool) (places : Nat) (q : Rat) : Octets :=
  let (digits, e) := if q = 0 then (List.replicate (places + 1) '0', 0) else roundedDigits (places + 1) q
  pointed keepsPoint digits 1 ++ exponentText 'e' 2 e

/-- A text of digits with a point, without zeros at its end. -/
def withoutFinalZeros (text : Octets) : Octets :=
  if text.contains '.' then
    match text.reverse.dropWhile (· == '0') with
    | '.' :: rest => rest.reverse
    | rest => rest.reverse
  else text

/-- A magnitude in the shorter way, with so many digits that matter. -/
def generalText (keepsZeros : Bool) (count : Nat) (q : Rat) : Octets :=
  let count := max count 1
  let (digits, e) := if q = 0 then (List.replicate count '0', 0) else roundedDigits count q
  let trim : Octets → Octets := fun text ↦ if keepsZeros then text else withoutFinalZeros text
  if e < -4 ∨ (count : Int) ≤ e then trim (pointed keepsZeros digits 1) ++ exponentText 'e' 2 e
  else if e < 0 then
    trim ('0' :: '.' :: List.replicate (e.natAbs - 1) '0' ++ digits)
  else trim (pointed keepsZeros digits (e.toNat + 1))

/-- A magnitude in base sixteen, with as many bits in front of the point as the format has beyond whole
digits. -/
def hexText (p : Precision) (keepsPoint : Bool) (places : Option Nat) (q : Rat) : Octets :=
  let leadBits := (p.bits - 1) % 4 + 1
  let usual := (p.bits - leadBits) / 4
  let lead := leadBits - 1
  let e := if q = 0 then 0 else max (Double.binaryExponent q.num.natAbs q.den) (p.lowest + (p.bits - 1 : Nat))
  let count := places.getD usual
  let scaled := (roundHalfEven (q * power 2 ((lead : Int) - e) * power 16 count)).toNat
  let first := scaled / Nat.pow 16 count
  let rest := Text.padStart count '0' (Nat.toDigits 16 (scaled % Nat.pow 16 count))
  let kept := if count = 0 then []
    else match places with
      | some _ => rest
      | none => (rest.reverse.dropWhile (· == '0')).reverse
  let point := if kept = [] ∧ !keepsPoint then [] else ['.']
  "0x".toList ++ Nat.toDigits 16 first ++ point ++ kept ++
    exponentText 'p' 1 (if q = 0 then 0 else e - lead)

end Floating

end ProgressActions.Number
