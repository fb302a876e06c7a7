/-!
# Reading and writing whole numbers

Decimal numerals are runs of the ten ASCII digits, leading zeros included. A reader may admit one
sign in front, and refuses a value beyond the width of the number that is asked for.
-/

namespace ProgressActions.Text

/-- The value of a run of digits, the most significant first. -/
def digitsValue (digits : List Char) : Nat :=
  digits.foldl (fun value c ↦ 10 * value + (c.toNat - 48)) 0

/-- A non-empty run of digits, and nothing else. -/
def isNumeral (text : List Char) : Bool :=
  !text.isEmpty && text.all Char.isDigit

/-- The value of a numeral without a sign. -/
def natural? (text : List Char) : Option Nat :=
  if isNumeral text then some (digitsValue text) else none

/-- The greatest number that 64 bits hold. -/
def maxWord : Nat := Nat.pow 2 64 - 1

/-- A count of at most 64 bits; one `+` may precede it. -/
def word? (text : List Char) : Option Nat :=
  let digits := match text with
    | '+' :: rest => rest
    | _ => text
  (natural? digits).filter (· ≤ maxWord)

/-- A number of at most 32 bits with its sign; one `+` or `-` may precede the digits. -/
def signed32? (text : List Char) : Option Int :=
  let value : Option Int := match text with
    | '-' :: rest => (natural? rest).map fun n ↦ -(n : Int)
    | '+' :: rest => (natural? rest).map fun n ↦ (n : Int)
    | _ => (natural? text).map fun n ↦ (n : Int)
  value.filter fun n ↦ -2147483648 ≤ n && n ≤ 2147483647

/-- The shortest numeral of a number. -/
def numeral (n : Nat) : List Char := Nat.toDigits 10 n

/-- The text brought to a width by characters set in front. -/
def padStart (width : Nat) (fill : Char) (text : List Char) : List Char :=
  List.replicate (width - text.length) fill ++ text

/-- A numeral of at least `width` digits. -/
def paddedNumeral (width n : Nat) : List Char := padStart width '0' (numeral n)

@[simp] theorem digitsValue_nil : digitsValue [] = 0 := rfl

theorem digitsValue_append_singleton (digits : List Char) (c : Char) :
    digitsValue (digits ++ [c]) = 10 * digitsValue digits + (c.toNat - 48) := by
  simp [digitsValue]

@[simp] theorem natural?_nil : natural? [] = none := rfl

theorem word?_le {text : List Char} {n : Nat} (h : word? text = some n) : n ≤ maxWord := by
  simpa using (Option.filter_eq_some_iff.1 h).2

theorem length_padStart (width : Nat) (fill : Char) (text : List Char) :
    (padStart width fill text).length = max width text.length := by
  simp [padStart]
  omega

end ProgressActions.Text
