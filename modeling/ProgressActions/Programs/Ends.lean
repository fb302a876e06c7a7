import ProgressActions.Programs.Amount
import ProgressActions.Programs.Basic

/-!
# Beginnings and ends of files

`head` writes the beginning of files and `tail` their end, counted in lines or in octets.
-/

namespace ProgressActions.Programs

inductive Part where
  | first (count : Nat)
  | allButLast (count : Nat)
  | last (count : Nat)
  /-- Everything from a thing with a number on. -/
  | onward (number : Nat)
  deriving DecidableEq, Repr

namespace Part

/-- How many things are left out in front of a part, and how many are in it, out of so many. -/
def range (total : Nat) : Part → Nat × Nat
  | first count => (0, min count total)
  | allButLast count => (0, total - count)
  | last count => (total - count, min count total)
  | onward number => (number - 1, total - (number - 1))

def of {α : Type} (p : Part) (things : List α) : List α :=
  let (before, count) := p.range things.length
  (things.drop before).take count

/-- A part does not reach beyond the whole. -/
theorem range_le (p : Part) (total : Nat) : (p.range total).1 + (p.range total).2 ≤ max total (p.range total).1 := by
  cases p <;> simp only [range] <;> omega

end Part

namespace Ends

structure Request where
  part : Part
  countsOctets : Bool := false
  /-- What ends a line. -/
  mark : Char := '\n'

def Request.of (r : Request) (text : Octets) : Octets :=
  if r.countsOctets then r.part.of text else (r.part.of (Octets.linesBy r.mark text)).flatten

/-- How much of the text is read for a beginning. From a stream, what is read comes in blocks. -/
def consumed (isStream : Bool) (countsOctets : Bool) (part text : Octets) : Nat :=
  if isStream ∧ !countsOctets then min text.length ((part.length + 8191) / 8192 * 8192) else part.length

def inputIsStream (p : Process) : Bool :=
  match p.openOf? 0 with
  | some file => match p.machine.body (p.machine.opens.getD file default).node with
    | .stream _ => true
    | _ => false
  | none => false

/-- The beginning of a file. What is left of the standard input stays there. -/
def beginning (r : Request) (file : Octets) : Job (Except SystemError Octets) := do
  if file ≠ ['-'] then pure ((← Job.input file).map r.of)
  else
    let p ← get
    match p.openOf? 0 with
    | none => pure (.error .badDescriptor)
    | some source =>
      let isStream := inputIsStream p
      let content ← liftM (Process.readOpenWhile source fun text ↦
        consumed isStream r.countsOctets (r.of text) text)
      pure (content.map r.of)

def heading (isFirst : Bool) (file : Octets) : Octets :=
  let title := if file = ['-'] then "standard input".toList else Quoting.needed file
  (if isFirst then [] else ['\n']) ++ "==> ".toList ++ title ++ " <==\n".toList

/-- Shows parts of files, and tells whether all of them could be shown. -/
def run (name : Octets) (showsNames : Bool) (part : Octets → Job (Except SystemError Octets)) :
    (isFirst : Bool) → List Octets → Job Bool
  | _, [] => pure true
  | isFirst, file :: rest => do
    let title := if file = ['-'] then "standard input".toList else file
    match ← part file with
    | .error cause =>
      let reads := cause == .isDirectory || cause == .badDescriptor
      if reads ∧ showsNames then Job.put name (heading isFirst file)
      let complaint := if reads then "error reading ".toList ++ Quoting.always title
        else "cannot open ".toList ++ Quoting.always title ++ " for reading".toList
      Job.complain name (Job.refusal complaint cause)
      discard (run name showsNames part (isFirst && !(reads && showsNames)) rest)
      pure false
    | .ok text =>
      if showsNames then Job.put name (heading isFirst file)
      Job.put name text
      run name showsNames part false rest

def usage : Usage :=
  { choices :=
      [{ key := "c", names := ["bytes"], demand := .value },
       { key := "n", names := ["lines"], demand := .value },
       { key := "q", names := ["quiet", "silent"] }, { key := "v", names := ["verbose"] },
       { key := "z", names := ["zero-terminated"] }] }

def signedAmount (name : Octets) (kind : String) (text : Octets) : Job (Option Char × Nat) := do
  let (sign, digits) := match text with
    | '-' :: rest => (some '-', rest)
    | '+' :: rest => (some '+', rest)
    | _ => (none, text)
  match amount? digits with
  | some n => pure (sign, n)
  | none => Job.fail name ("invalid number of ".toList ++ kind.toList ++ ": ".toList ++ Quoting.plain text)

def request (name : Octets) (g : Given) (usual : Part) (part : Option Char → Nat → Part) : Job Request := do
  let mark := if g.has "z" then '\x00' else '\n'
  match g.last? ["c", "n"] with
  | some key =>
    let kind := if key = "c" then "bytes" else "lines"
    let (sign, n) ← signedAmount name kind ((g.value? key).getD [])
    pure { part := part sign n, countsOctets := key = "c", mark }
  | none => pure { part := usual, mark }

def showsNames (g : Given) : Bool :=
  match g.last? ["q", "v"] with
  | some key => key == "v"
  | none => decide (1 < g.words.length)

/-- Words in which an old form of the count has been replaced by options. -/
def modernized (signs letters : List Char) : List Octets → List Octets
  | (sign :: digit :: more) :: rest =>
    let text := digit :: more
    let digits := text.takeWhile Char.isDigit
    let marks := text.drop digits.length
    if signs.contains sign ∧ digits ≠ [] ∧ marks.all letters.contains then
      let count := if sign = '+' then '+' :: digits else digits
      let unit := marks.find? fun c ↦ "bkmc".toList.contains c
      let factor := match unit with
        | some 'b' => ['b']
        | some 'k' => ['k']
        | some 'm' => ['m']
        | _ => []
      (if unit.isSome then "-c".toList else "-n".toList) :: (count ++ factor) ::
        ((marks.filter fun c ↦ "qvz".toList.contains c).map fun c ↦ ['-', c]) ++ rest
    else (sign :: text) :: rest
  | words => words

end Ends

def head : Program := fun name arguments ↦ do
  let given ← Job.understand Ends.usage name (Ends.modernized ['-'] "bkmcqvzl".toList arguments)
  let request ← Ends.request name given (.first 10) fun sign n ↦
    if sign = some '-' then .allButLast n else .first n
  let files := Job.inputs given.words
  Job.finish (← Ends.run name (Ends.showsNames given) (Ends.beginning request) true files)

def tail : Program := fun name arguments ↦ do
  let usage := { Ends.usage with choices := Ends.usage.choices ++
    [{ key := "f" }, { key := "F" }, { key := "follow", demand := .attached }, { key := "retry" },
     { key := "s", names := ["sleep-interval"], demand := .value }, { key := "pid", demand := .value }] }
  let words := if arguments.length ≤ 2 then Ends.modernized ['-', '+'] "bclf".toList arguments
    else Ends.modernized ['-'] "bclf".toList arguments
  let given ← Job.understand usage name words
  let request ← Ends.request name given (.last 10) fun sign n ↦
    if sign = some '+' then .onward n else .last n
  let files := Job.inputs given.words
  let part : Octets → Job (Except SystemError Octets) := fun file ↦ do
    pure ((← Job.input file).map request.of)
  Job.finish (← Ends.run name (Ends.showsNames given) part true files)

end ProgressActions.Programs
