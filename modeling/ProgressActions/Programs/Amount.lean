import ProgressActions.Text.Numeral
import ProgressActions.Octets

/-!
# Amounts

An amount is a numeral, and a letter behind it may multiply it.
-/

namespace ProgressActions.Programs

/-- The power of a thousand that a letter stands for. -/
def unitPower? : Char → Option Nat
  | 'k' => some 1
  | 'K' => some 1
  | 'm' => some 2
  | 'M' => some 2
  | 'G' => some 3
  | 'T' => some 4
  | 'P' => some 5
  | 'E' => some 6
  | 'Z' => some 7
  | 'Y' => some 8
  | _ => none

/-- The factor that the text behind a numeral stands for. -/
def unitFactor? : Octets → Option Nat
  | [] => some 1
  | ['b'] => some 512
  | [c] => (unitPower? c).map (Nat.pow 1024)
  | [c, 'B'] => (unitPower? c).map (Nat.pow 1000)
  | [c, 'i', 'B'] => (unitPower? c).map (Nat.pow 1024)
  | _ => none

def amount? (text : Octets) : Option Nat := do
  let digits := text.takeWhile Char.isDigit
  if digits = [] then none
  else pure (Text.digitsValue digits * (← unitFactor? (text.drop digits.length)))

/-- A numeral spells its own amount. -/
theorem amount?_of_isNumeral {text : Octets} (h : Text.isNumeral text = true) :
    amount? text = some (Text.digitsValue text) := by
  simp only [Text.isNumeral, Bool.and_eq_true, Bool.not_eq_true', List.isEmpty_eq_false_iff] at h
  have hall : ∀ t : Octets, t.all Char.isDigit = true → t.takeWhile Char.isDigit = t := by
    intro t ht
    induction t with
    | nil => rfl
    | cons c rest ih =>
      simp only [List.all_cons, Bool.and_eq_true] at ht
      simp [ht.1, ih ht.2]
  have hfactor : unitFactor? (text.drop text.length) = some 1 := by
    rw [List.drop_length]
    rfl
  simp only [amount?, hall text h.2, h.1, if_false, hfactor]
  exact congrArg some (Nat.mul_one _)

end ProgressActions.Programs
