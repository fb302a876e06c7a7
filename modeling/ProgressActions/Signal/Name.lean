import ProgressActions.Action.Error
import ProgressActions.Signal
import ProgressActions.Text.Blank
import ProgressActions.Text.Numeral

/-!
# Spellings of a signal

A signal is given by its number, or by its name in any ASCII case with or without `SIG`. Blanks
around it do not count, but an error quotes them too.
-/

namespace ProgressActions.Signal

/-- A name in capitals that opens with `SIG`, which is added where it is missing. -/
def completeName (name : List Char) : List Char :=
  let capitals := name.map Char.toUpper
  if opening.isPrefixOf capitals then capitals else opening ++ capitals

/-- The signal that a text names. A text that reads as a number is never taken for a name. -/
def parse? (text : List Char) : Option Signal :=
  let name := Text.trim text
  match Text.signed32? name with
  | some n => ofNumber? n
  | none => ofFullName? (completeName name)

/-- Only the text between the outer blanks matters. -/
theorem parse?_eq_of_trim_eq {first second : List Char} (h : Text.trim first = Text.trim second) :
    parse? first = parse? second := by
  simp only [parse?, h]

/-- The signal that a text names, or the error that quotes the whole text. -/
def decode (name : String) : Except SpecError Signal :=
  match parse? name.toList with
  | some s => .ok s
  | none => .error (.unknownSignal name)

theorem decode_eq_ok_iff {name : String} {s : Signal} :
    decode name = .ok s ↔ parse? name.toList = some s := by
  unfold decode
  cases parse? name.toList <;> simp

theorem decode_eq_error_iff {name : String} {cause : SpecError} :
    decode name = .error cause ↔ parse? name.toList = none ∧ cause = .unknownSignal name := by
  unfold decode
  cases parse? name.toList <;> simp [eq_comm]

end ProgressActions.Signal
