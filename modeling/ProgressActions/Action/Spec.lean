import ProgressActions.Action
import ProgressActions.Signal.Name
import ProgressActions.Text.Escape

/-!
# Action specs

A spec is a bare keyword, or a keyword and a payload parted by the first `=`. Texts are unquoted,
`sleep` takes ASCII digits only, and `wait` takes a signal.
-/

namespace ProgressActions

namespace Action

/-- The actions that a keyword alone spells. -/
def ofKeyword? (spec : String) : Option Action :=
  if spec = "." ∨ spec = "dot" then some dot
  else if spec = "bell" then some bell
  else if spec = "echo" then some echo
  else if spec = "totals" then some totals
  else none

/-- The parts of a spec before and after its first `=`. -/
def splitPayload? (spec : List Char) : Option (List Char × List Char) :=
  match spec.dropWhile (· != '=') with
  | [] => none
  | _ :: payload => some (spec.takeWhile (· != '='), payload)

/-- The seconds of a pause: ASCII digits without a sign, of at most 64 bits. -/
def timeout? (payload : List Char) : Option Nat :=
  (Text.natural? payload).filter (· ≤ Text.maxWord)

def textPayload (payload : List Char) : String := String.ofList (Text.unquote payload)

/-- The action that a spec stands for. -/
def parse (spec : String) : Except SpecError Action :=
  match ofKeyword? spec with
  | some action => .ok action
  | none =>
    match splitPayload? spec.toList with
    | none => .error (.unknownAction spec)
    | some (keyword, payload) =>
      if keyword = "echo".toList then .ok (echoText (textPayload payload))
      else if keyword = "exec".toList then .ok (exec (textPayload payload))
      else if keyword = "ttyout".toList then .ok (ttyText (textPayload payload))
      else if keyword = "sleep".toList then
        match timeout? payload with
        | some seconds => .ok (sleep seconds)
        | none => .error (.invalidTimeout spec)
      else if keyword = "wait".toList then
        (Signal.decode (String.ofList payload)).map wait
      else .error (.unknownAction spec)

theorem splitPayload?_eq_some {spec keyword payload : List Char}
    (h : splitPayload? spec = some (keyword, payload)) :
    spec = keyword ++ '=' :: payload ∧ '=' ∉ keyword := by
  unfold splitPayload? at h
  split at h
  · cases h
  · rename_i head rest hdrop
    cases h
    have hhead : head = '=' := by
      have hfirst := List.head?_dropWhile_not (· != '=') spec
      simpa [hdrop] using hfirst
    refine ⟨?_, ?_⟩
    · have happend := List.takeWhile_append_dropWhile (p := (· != '=')) (l := spec)
      rw [hdrop, hhead] at happend
      exact happend.symm
    · intro hmem
      have hall := List.all_takeWhile (p := (· != '=')) (l := spec)
      simpa using List.all_eq_true.1 hall _ hmem

end Action

end ProgressActions
