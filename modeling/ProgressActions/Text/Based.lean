import ProgressActions.Text.Numeral

/-!
# Numbers in bases other than ten

Digits beyond nine are letters of either case. A number may show its base by how it begins.
-/

namespace ProgressActions.Text

/-- The value of a digit of base sixteen. -/
def hexDigit? (c : Char) : Option Nat :=
  if '0' ≤ c ∧ c ≤ '9' then some (c.toNat - 48)
  else if 'a' ≤ c ∧ c ≤ 'f' then some (c.toNat - 87)
  else if 'A' ≤ c ∧ c ≤ 'F' then some (c.toNat - 55)
  else none

def isDigitOf (base : Nat) (c : Char) : Bool :=
  match hexDigit? c with
  | some n => n < base
  | none => false

/-- The value of a run of digits of a base, the most significant first. -/
def basedValue (base : Nat) (digits : List Char) : Nat :=
  digits.foldl (fun value c ↦ base * value + (hexDigit? c).getD 0) 0

/-- The number in front of a text and its length. A zero in front means base eight, and base sixteen
if the letter X follows it. -/
def leadingNumber (text : List Char) : Nat × Nat :=
  match text with
  | '0' :: x :: rest =>
    let digits := rest.takeWhile (isDigitOf 16)
    if (x = 'x' ∨ x = 'X') ∧ digits ≠ [] then (basedValue 16 digits, digits.length + 2)
    else
      let octal := (x :: rest).takeWhile (isDigitOf 8)
      (basedValue 8 octal, octal.length + 1)
  | _ =>
    let digits := text.takeWhile Char.isDigit
    (digitsValue digits, digits.length)

@[simp] theorem basedValue_nil (base : Nat) : basedValue base [] = 0 := rfl

theorem length_leadingNumber_le (text : List Char) : (leadingNumber text).2 ≤ text.length := by
  have hle : ∀ (p : Char → Bool) (l : List Char), (l.takeWhile p).length ≤ l.length :=
    fun p l ↦ (List.takeWhile_prefix p).length_le
  unfold leadingNumber
  split
  · rename_i x rest
    have hhex := hle (isDigitOf 16) rest
    have hoctal := hle (isDigitOf 8) (x :: rest)
    simp only [List.length_cons] at hoctal ⊢
    split <;> simp only <;> omega
  · exact hle _ _

end ProgressActions.Text
