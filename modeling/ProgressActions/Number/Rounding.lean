/-!
# Rounding to a whole number, and numerals with a fixed number of places

A half goes to the even neighbour. The rule serves twice: when a quotient is fitted to the grid of
the doubles, and when a number is printed with a fixed number of decimal places.
-/

namespace ProgressActions.Number

/-- The nearest whole number; a half goes to the even one of its two neighbours. -/
def roundHalfEven (q : Rat) : Int :=
  let below := q.floor
  let excess := q - below
  if excess < 1 / 2 then below
  else if 1 / 2 < excess then below + 1
  else if below % 2 = 0 then below
  else below + 1

@[simp] theorem roundHalfEven_intCast (n : Int) : roundHalfEven n = n := by
  have h : ((n : Rat) - (n : Rat) : Rat) < 1 / 2 := by
    rw [Rat.sub_self]
    decide +kernel
  simp only [roundHalfEven, Rat.floor_intCast]
  rw [if_pos h]

/-- A non-negative number with `places` digits after the point, rounded once from its exact value. -/
def fixedPlaces (places : Nat) (q : Rat) : List Char :=
  let scaled := (roundHalfEven (q * Nat.pow 10 places)).toNat
  let whole := Nat.toDigits 10 (scaled / Nat.pow 10 places)
  if places = 0 then whole
  else
    let fraction := Nat.toDigits 10 (scaled % Nat.pow 10 places)
    whole ++ '.' :: (List.replicate (places - fraction.length) '0' ++ fraction)

end ProgressActions.Number
