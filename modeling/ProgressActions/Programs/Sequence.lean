import ProgressActions.Number.Word64
import ProgressActions.Programs.Basic
import ProgressActions.Text.Layout

/-!
# Sequences of numbers

`seq` writes numbers from a first one to a last one, by equal steps. Numbers have as many places as the
most precise of those that are given.
-/

namespace ProgressActions.Programs

namespace Sequence

open Number Text

/-- A number as it is given: its value, how many places it has, and how wide it is. -/
structure Figure where
  value : Rat
  /-- Missing for numbers that are not written in base ten. -/
  places : Option Nat
  width : Nat
  /-- Whether the number is beyond all bounds. -/
  isInfinite : Bool := false

def Figure.one : Figure := { value := 1, places := some 0, width := 1 }

/-- The number that a text spells, or why it is none. -/
def figure (text : Octets) : Except Octets Figure :=
  let bare := text.dropWhile fun c ↦ Word64.isBlank c || c == '+'
  let invalid := "invalid floating point argument: ".toList ++ Quoting.plain text
  match Floating.leading? .extended bare with
  | some (value, []) =>
    match value with
    | .nan _ => .error ("invalid 'not-a-number' argument: ".toList ++ Quoting.plain text)
    | .infinite _ => .ok { value := 0, places := none, width := 0, isInfinite := true }
    | .finite _ _ =>
      if bare.any fun c ↦ c == 'x' || c == 'X' then
        .ok { value := value.toRat, width := 0, places := if bare.contains 'p' then none else some 0 }
      else
        let isExponent : Char → Bool := fun c ↦ c == 'e' || c == 'E'
        let mantissa := bare.takeWhile (!isExponent ·)
        let front := mantissa.takeWhile (· != '.')
        let hasPoint := front.length < mantissa.length
        let places := mantissa.length - front.length - 1
        let adjustment : Int := if !hasPoint then 0
          else if places = 0 then -1
          else if front.getLast?.any Char.isDigit then 0 else 1
        let shift : Int := match bare.drop mantissa.length with
          | [] => 0
          | _ :: digits => ((Floating.exponent? digits).map (·.1)).getD 0
        let start : Int := mantissa.length + adjustment
        let magnitude : Rat := if shift = 0 then
            let digits := (front ++ mantissa.drop (front.length + 1)).filter Char.isDigit
            (digitsValue digits : Rat) / (Nat.pow 10 places : Rat)
          else value.toRat
        let exact := if shift = 0 ∧ value.isNegative then -magnitude else magnitude
        let finalPlaces := if shift < 0 then places + shift.natAbs else places - shift.natAbs
        let extra : Int := if shift = 0 then 0
          else shift.natAbs + (if shift < 0 ∧ (!hasPoint ∨ places = 0) then 1 else 0)
        .ok { value := exact, places := some finalPlaces, width := (start + extra).toNat }
  | _ => .error invalid

/-- A format of numbers: text, a layout with the letter of a conversion, and text. -/
structure Format where
  front : Octets := []
  layout : Layout
  letter : Char
  back : Octets := []

def Format.text (f : Format) (q : Rat) : Octets :=
  f.front ++ f.layout.fitFloating .extended f.letter (Floating.ofRat .extended q) ++ f.back

/-- A text with percent signs written twice, up to a single one, and what follows it. -/
def plainPart : (limit : Nat) → Octets → Octets × Octets
  | 0, text => ([], text)
  | _ + 1, [] => ([], [])
  | limit + 1, '%' :: '%' :: rest =>
    let (text, after) := plainPart limit rest
    ('%' :: text, after)
  | _ + 1, '%' :: rest => ([], '%' :: rest)
  | limit + 1, c :: rest =>
    let (text, after) := plainPart limit rest
    (c :: text, after)

def format (text : Octets) : Except Octets Format :=
  let named := "format ".toList ++ Quoting.plain text
  let (front, directive) := plainPart (text.length + 1) text
  match directive with
  | [] => .error (named ++ " has no % directive".toList)
  | _ :: rest =>
    let flags := rest.takeWhile fun c ↦ Layout.isFlag c || c == '\''
    let afterFlags := rest.drop flags.length
    let width := afterFlags.takeWhile Char.isDigit
    let afterWidth := afterFlags.drop width.length
    let (precision, after) := match afterWidth with
      | '.' :: more =>
        let digits := more.takeWhile Char.isDigit
        (some (digitsValue digits), more.drop digits.length)
      | _ => (none, afterWidth)
    let conversion := if after.head? = some 'L' then after.drop 1 else after
    match conversion with
    | [] => .error (named ++ " ends in %".toList)
    | letter :: more =>
      if "efgaEFGA".toList.contains letter then
        let (back, others) := plainPart (more.length + 1) more
        if others = [] then
          .ok { front, letter, back,
                layout := { Layout.ofFlags flags with width := digitsValue width, precision } }
        else .error (named ++ " has too many % directives".toList)
      else .error (named ++ " has unknown %".toList ++ letter :: " directive".toList)

def usualFormat (equalWidth : Bool) (first step last : Figure) : Format :=
  match first.places, step.places, last.places with
  | some a, some b, some c =>
    let places := max a b
    if !equalWidth then { layout := { precision := some places }, letter := 'f' }
    else
      let lastWidth := last.width + places - c - (if c ≠ 0 ∧ places = 0 then 1 else 0) +
        (if c = 0 ∧ places ≠ 0 then 1 else 0)
      let firstWidth := first.width + (places - a) + (if a = 0 ∧ places ≠ 0 then 1 else 0)
      { layout := { precision := some places, zeroFilled := true, width := max firstWidth lastWidth }
        letter := 'f' }
  | _, _, _ => { layout := {}, letter := 'g' }

/-- How many numbers there are; where there is no end, some are as good as all. -/
def count (first step last : Figure) : Nat :=
  if last.isInfinite then 20000
  else if 0 < step.value then
    (if first.value ≤ last.value then ((last.value - first.value) / step.value).floor.toNat + 1 else 0)
  else if last.value ≤ first.value then ((first.value - last.value) / -step.value).floor.toNat + 1
  else 0

def values (first step last : Figure) : List Rat :=
  (List.range (count first step last)).map fun n : Nat ↦ first.value + (n : Rat) * step.value

/-- A sequence without an end goes on for as long as anybody cares. -/
theorem length_values (first step last : Figure) :
    (values first step last).length = count first step last := by
  simp [values]

def usage : Usage :=
  { permutes := false
    choices :=
      [{ key := "f", names := ["format"], demand := .value },
       { key := "s", names := ["separator"], demand := .value },
       { key := "w", names := ["equal-width"] }] }

/-- Words in which a negative number begins what the program works on. -/
def guarded (words : List Octets) : List Octets :=
  let isNumber : Octets → Bool := fun
    | '-' :: c :: _ => c.isDigit || c == '.'
    | _ => false
  let options := words.takeWhile (!isNumber ·)
  options ++ (if options.length = words.length then [] else ["--".toList]) ++ words.drop options.length

end Sequence

def seq : Program := fun name arguments ↦ do
  let given ← Job.understand Sequence.usage name (Sequence.guarded arguments)
  let words := given.words.filter (· != "--".toList)
  let number (text : Octets) : Job Sequence.Figure :=
    match Sequence.figure text with
    | .ok f => pure f
    | .error message => Job.misused name message
  let (first, step, last) ← match words with
    | [] => Job.missingOperand name
    | [a] => do pure (.one, .one, ← number a)
    | [a, b] => do pure (← number a, .one, ← number b)
    | [a, b, c] => do
      let first ← number a
      let step ← number b
      if step.value = 0 ∧ !step.isInfinite then
        Job.misused name ("invalid Zero increment value: ".toList ++ Quoting.plain b)
      pure (first, step, ← number c)
    | _ :: _ :: _ :: extra :: _ => Job.extraOperand name extra
  let format ← match given.value? "f" with
    | none => pure (Sequence.usualFormat (given.has "w") first step last)
    | some text =>
      if given.has "w" then
        Job.misused name "format string may not be specified when printing equal width strings".toList
      else
        match Sequence.format text with
        | .ok f => pure f
        | .error message => Job.fail name message
  let texts := (Sequence.values first step last).map format.text
  if texts ≠ [] then
    Job.put name (((given.value? "s").getD ['\n']).intercalate texts ++ ['\n'])
    if last.isInfinite then throw (.killed .pipe)

end ProgressActions.Programs
