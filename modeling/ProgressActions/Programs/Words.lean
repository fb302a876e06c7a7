import ProgressActions.Process.Tree
import ProgressActions.Programs.Amount
import ProgressActions.Programs.Basic
import ProgressActions.Programs.Condition
import ProgressActions.Programs.Format

/-!
# Programs that print words

`echo` and `printf` print their words, `test` answers whether they are a condition that holds, and others
show parts of paths, variables, or the same line again and again.
-/

namespace ProgressActions.Programs

def echo : Program := fun name arguments ↦ Job.put name (plainEcho arguments)

/-! ## Formats -/

def formatComplaint : FormatProblem → Octets
  | .noNumber text => Quoting.plain text ++ ": expected a numeric value".toList
  | .partlyNumber text => Quoting.plain text ++ ": value not completely converted".toList
  | .outOfRange text => Quoting.plain text ++ ": Numerical result out of range".toList
  | .ignored text =>
    "warning: ".toList ++ text ++ ": character(s) following character constant have been ignored".toList
  | .badDirective text => text ++ ": invalid conversion specification".toList
  | .openDirective => "%: invalid conversion specification".toList
  | .missingHex => "missing hexadecimal number in escape".toList

def isFailure : FormatProblem → Bool
  | .ignored _ => false
  | _ => true

def printf : Program := fun name arguments ↦ do
  let words := if arguments.head? = some "--".toList then arguments.drop 1 else arguments
  match words with
  | [] => Job.missingOperand name
  | format :: rest =>
    let (pieces, left) := printFormat .program format rest
    let mut isWell := true
    let mut text : List Octets := []
    for piece in pieces do
      match piece with
      | .text more => text := more :: text
      | .problem cause =>
        Job.put name text.reverse.flatten
        text := []
        Job.complain name (formatComplaint cause)
        if isFailure cause then isWell := false
    Job.put name text.reverse.flatten
    match left with
    | extra :: _ =>
      Job.complain name
        ("warning: ignoring excess arguments, starting with ".toList ++ Quoting.plain extra)
    | [] => pure ()
    Job.finish isWell

/-! ## Conditions -/

def conditionComplaint : ConditionProblem → Octets
  | .missingBracket => "missing ']'".toList
  | .illegalNumber word => "invalid integer ".toList ++ Quoting.plain word
  | .unexpectedOperator word => "extra argument ".toList ++ Quoting.plain word
  | .argumentExpected word => "missing argument after ".toList ++ Quoting.plain word
  | .missingParenthesis => "')' expected".toList

/-- Answers by the status whether a condition holds. -/
def test : Program := fun name arguments ↦ do
  let p ← get
  let verdict := if Path.base name = ['['] then bracketCondition p arguments else condition p arguments
  match verdict with
  | .error problem => Job.fail name (conditionComplaint problem) 2
  | .ok holds => Job.finish holds

/-! ## Paths -/

def terminated (g : Given) (text : Octets) : Octets := text ++ [if g.has "z" then '\x00' else '\n']

/-- A name without an ending, unless it is nothing else. -/
def withoutSuffix (suffix name : Octets) : Octets :=
  if suffix ≠ [] ∧ suffix.isSuffixOf name ∧ name ≠ suffix then name.take (name.length - suffix.length) else name

/-- Shows the last names of paths. -/
def basename : Program := fun name arguments ↦ do
  let usage : Usage :=
    { permutes := false
      choices :=
        [{ key := "a", names := ["multiple"] }, { key := "s", names := ["suffix"], demand := .value },
         { key := "z", names := ["zero"] }] }
  let given ← Job.understand usage name arguments
  let isMultiple := given.has "a" || given.has "s"
  match given.words with
  | [] => Job.missingOperand name
  | first :: rest =>
    if isMultiple then
      let suffix := (given.value? "s").getD []
      Job.put name (given.words.flatMap fun path ↦ terminated given (withoutSuffix suffix (Path.base path)))
    else
      match rest with
      | _ :: extra :: _ => Job.extraOperand name extra
      | _ => Job.put name (terminated given (withoutSuffix (rest.headD []) (Path.base first)))

/-- Shows paths without their last names. -/
def dirname : Program := fun name arguments ↦ do
  let given ← Job.understand { choices := [{ key := "z", names := ["zero"] }] } name arguments
  if given.words = [] then Job.missingOperand name
  else Job.put name (given.words.flatMap fun path ↦ terminated given (Path.parent path))

/-- Shows the path of the directory at hand. -/
def pwd : Program := fun name arguments ↦ do
  let usage : Usage :=
    { choices := [{ key := "L", names := ["logical"] }, { key := "P", names := ["physical"] }] }
  let given ← Job.understand usage name arguments
  if given.words ≠ [] then Job.complain name "ignoring non-option arguments".toList
  let p ← get
  let logical := (p.environment.lookup "PWD".toList).filter fun path ↦
    given.last? ["L", "P"] == some "L" && Path.isAbsolute path && (p.node? path).toOption == some p.directory
  Job.put name (logical.getD (p.machine.pathTo p.directory) ++ ['\n'])

/-! ## Other words -/

def printenv : Program := fun name arguments ↦ do
  let usage : Usage := { permutes := false, failure := 2, choices := [{ key := "0", names := ["null"] }] }
  let given ← Job.understand usage name arguments
  let p ← get
  let mark := if given.has "0" then '\x00' else '\n'
  if given.words = [] then
    Job.put name (Octets.ended mark (p.environment.map fun (key, value) ↦ key ++ '=' :: value))
  else
    let found := given.words.map fun key ↦ p.environment.lookup key
    Job.put name (Octets.ended mark (found.filterMap id))
    Job.finish (found.all (·.isSome))

/-- How much is written to somebody who reads without end. -/
def plenty : Nat := Nat.pow 2 18

/-- Writes a line again and again. -/
def yes : Program := fun name arguments ↦ do
  let words := if arguments.head? = some "--".toList then arguments.drop 1 else arguments
  let line := (if words = [] then ['y'] else Octets.spaced words) ++ ['\n']
  Job.put name (List.replicate (plenty / line.length + 1) line).flatten
  throw (.killed .pipe)

def primeFactors : (limit : Nat) → (candidate n : Nat) → List Nat
  | 0, _, n => [n]
  | limit + 1, candidate, n =>
    if n < 2 then []
    else if n < candidate * candidate then [n]
    else if n % candidate = 0 then candidate :: primeFactors limit candidate (n / candidate)
    else primeFactors limit (if candidate = 2 then 3 else candidate + 2) n

def factor : Program := fun name arguments ↦ do
  let given ← Job.understand { choices := [{ key := "h", names := ["exponents"] }] } name arguments
  let isBlank : Char → Bool := fun c ↦ c == ' ' || c == '\n' || c == '\t'
  let words ← if given.words ≠ [] then pure given.words else
    match ← Job.input ['-'] with
    | .ok text => pure ((text.splitBy fun a b ↦ isBlank a == isBlank b).filter fun part ↦ !part.any isBlank)
    | .error _ => pure []
  let mut isWell := true
  for word in words do
    match Text.natural? (if word.head? = some '+' then word.drop 1 else word) with
    | none =>
      Job.complain name (Quoting.plain word ++ " is not a valid positive integer".toList)
      isWell := false
    | some n =>
      let factors := primeFactors 3000000 2 n
      let shown := if given.has "h" then
          (factors.splitBy (· == ·)).map fun row ↦
            let base := Text.numeral (row.headD 0)
            if row.length = 1 then base else base ++ '^' :: Text.numeral row.length
        else factors.map Text.numeral
      Job.put name (Text.numeral n ++ ':' :: (shown.flatMap (' ' :: ·)) ++ ['\n'])
  Job.finish isWell

end ProgressActions.Programs
