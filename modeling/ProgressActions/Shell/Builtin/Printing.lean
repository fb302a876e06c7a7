import ProgressActions.Programs.Condition
import ProgressActions.Programs.Format
import ProgressActions.Shell.Builtin.Basic

/-!
# Commands of a shell that print or test

`echo`, `printf` and `test` are programs, too; a shell has commands of its own for them.
-/

namespace ProgressActions.Shell.Builtin

open Programs

def echo : Builtin := fun _ arguments ↦ do
  Act.print (shellEcho arguments)
  pure 0

def formatComplaint : FormatProblem → Octets
  | .noNumber text => text ++ ": expected numeric value".toList
  | .partlyNumber text => text ++ ": not completely converted".toList
  | .outOfRange text => text ++ ": Numerical result out of range".toList
  | .badDirective text => text ++ ": invalid directive".toList
  | _ => "missing format character".toList

/-- Prints texts, and complains in between. The answer tells whether there was a complaint. -/
def printPieces : (text : Octets) → List Printed → Act Bool
  | text, [] => do
    Act.print text
    pure false
  | text, .text more :: rest => printPieces (text ++ more) rest
  | text, .problem cause :: rest => do
    Act.print text
    if cause.isFatal then Act.fail (formatComplaint cause)
    else
      Act.complain (formatComplaint cause)
      discard (printPieces [] rest)
      pure true

/-- Neighbouring texts put together. -/
def merged (pieces : List Printed) : List Printed :=
  pieces.foldr (fun piece rest ↦ match piece, rest with
    | .text first, .text second :: more => .text (first ++ second) :: more
    | _, _ => piece :: rest) []

def printf : Builtin := fun _ arguments ↦ do
  match ← withoutOptions arguments with
  | [] => Act.fail "usage: printf format [arg ...]".toList
  | format :: rest =>
    let pieces := (printFormat .shell format rest).1
    pure (if ← printPieces [] (merged pieces) then 1 else 0)

def answer (verdict : Except ConditionProblem Bool) : Act Nat := do
  match verdict with
  | .error problem => Act.fail problem.message
  | result => pure (conditionStatus result)

def test : Builtin := fun name arguments ↦ do
  let p := (← get).process
  answer (if name = ['['] then bracketCondition p arguments else condition p arguments)

end ProgressActions.Shell.Builtin
