import ProgressActions.Octets
import ProgressActions.Text.Based

/-!
# Whole numbers of 64 bits

Numbers with a sign that fit into 64 bits: how they wrap, how they are cut off, and how texts spell them.
-/

namespace ProgressActions

namespace Word64

def largest : Nat := Nat.pow 2 63 - 1

/-- A number brought into the range of 64 bits with a sign. -/
def wrap (n : Int) : Int := Int.bmod n (Nat.pow 2 64)

/-- A number that is cut off at the ends of the range. -/
def clamp (n : Int) : Int := max (-(Nat.pow 2 63 : Int)) (min n largest)

/-- A bitwise operation on two numbers of 64 bits with signs. -/
def bitwise (f : BitVec 64 → BitVec 64 → BitVec 64) (a b : Int) : Int :=
  (f (BitVec.ofInt 64 a) (BitVec.ofInt 64 b)).toInt

def isBlank (c : Char) : Bool := " \t\n\x0b\x0c\x0d".toList.contains c

/-- The number in front of a text, without regard to its size, and what follows it. A number in base zero
shows its base by how it begins. -/
def leading? (decimal : Bool) (text : Octets) : Option (Int × Octets) :=
  let start := text.dropWhile isBlank
  let (negative, digits) := match start with
    | '-' :: rest => (true, rest)
    | '+' :: rest => (false, rest)
    | _ => (false, start)
  let (n, length) :=
    if decimal then
      let run := digits.takeWhile Char.isDigit
      (Text.digitsValue run, run.length)
    else Text.leadingNumber digits
  if length = 0 then none else some (if negative then -(n : Int) else n, digits.drop length)

/-- The number that a whole text spells, apart from blanks around it. -/
def whole? (decimal : Bool) (text : Octets) : Option Int :=
  match leading? decimal text with
  | some (n, rest) => if rest.all isBlank ∧ clamp n = n then some n else none
  | none => none

end Word64

end ProgressActions
