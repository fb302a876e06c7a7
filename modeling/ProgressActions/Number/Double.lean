import ProgressActions.Number.Rounding

/-!
# Numbers in double precision

A double is kept as the exact rational number that it stands for. Arithmetic is done on exact
numbers and then rounded once, which is how the IEEE operations are defined.
-/

namespace ProgressActions.Number

/-- A number in double precision. The sign of zero is not kept. -/
inductive Double where
  | nan
  | infinite (negative : Bool)
  | finite (value : Rat)
  deriving DecidableEq

namespace Double

/-- The greatest `e` with `2 ^ e ≤ numerator / denominator`, for positive arguments. -/
def binaryExponent (numerator denominator : Nat) : Int :=
  let guess : Int := (numerator.log2 : Int) - denominator.log2
  let reached :=
    if 0 ≤ guess then decide (denominator * Nat.pow 2 guess.toNat ≤ numerator)
    else decide (denominator ≤ numerator * Nat.pow 2 (-guess).toNat)
  if reached then guess else guess - 1

/-- The exponent of the last place of a double of this size: 53 bits, and no place below `2 ^ -1074`. -/
def lastPlace (q : Rat) : Int :=
  max (binaryExponent q.num.natAbs q.den - 52) (-1074)

/-- The multiple of `2 ^ place` next to a number, with a half going to the even multiple. -/
def roundToPlace (place : Int) (q : Rat) : Rat :=
  if 0 ≤ place then
    let unit : Nat := Nat.pow 2 place.toNat
    roundHalfEven (q / unit) * unit
  else
    let parts : Nat := Nat.pow 2 (-place).toNat
    roundHalfEven (q * parts) / parts

/-- The double next to a number. From `2 ^ 1024` on the result is infinite. -/
def nearest (q : Rat) : Double :=
  if q = 0 then .finite 0
  else
    let value := roundToPlace (lastPlace q) q
    if Nat.pow 2 1024 ≤ value then .infinite false
    else if value ≤ -(Nat.pow 2 1024 : Rat) then .infinite true
    else .finite value

/-- The double next to a whole number. -/
def ofNat (n : Nat) : Double := nearest n

/-- The greater of the number and zero; a number that is not comparable counts as zero. -/
def clampNonneg : Double → Double
  | .nan => .finite 0
  | .infinite negative => if negative then .finite 0 else .infinite false
  | .finite value => .finite (if value ≤ 0 then 0 else value)

/-- Product with an exact positive factor. -/
def scale (x : Double) (factor : Rat) : Double :=
  match x with
  | .finite value => nearest (value * factor)
  | other => other

/-- Sum of two finite numbers; an infinite or undefined summand prevails. -/
def add : Double → Double → Double
  | .finite x, .finite y => nearest (x + y)
  | .finite _, other => other
  | other, _ => other

/-- Quotient by a positive finite number. -/
def div : Double → Double → Double
  | .finite x, .finite y => nearest (x / y)
  | other, _ => other

/-- The least whole number that is not below. -/
def ceil : Double → Double
  | .finite value => .finite value.ceil
  | other => other

/-- Comparison with an exact number; nothing is at most an undefined number. -/
def atLeast (x : Double) (bound : Rat) : Bool :=
  match x with
  | .nan => false
  | .infinite negative => !negative
  | .finite value => bound ≤ value

/-- Decimal text with a fixed number of places, from the exact value. -/
def fixed (places : Nat) : Double → List Char
  | .nan => "NaN".toList
  | .infinite negative => if negative then "-inf".toList else "inf".toList
  | .finite value =>
    if value < 0 then '-' :: fixedPlaces places (-value) else fixedPlaces places value

@[simp] theorem clampNonneg_nan : clampNonneg .nan = .finite 0 := rfl

end Double

end ProgressActions.Number
