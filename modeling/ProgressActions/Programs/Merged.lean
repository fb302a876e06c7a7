import ProgressActions.Programs.Sorted

/-!
# Lines side by side

`uniq` looks at neighbouring lines that are equal, `comm` at the lines that two sorted files have in
common, and `join` at lines of two sorted files with the same key.
-/

namespace ProgressActions.Programs

open Sorted (isBlank)

/-! ## Repeated lines -/

namespace Uniq

structure Criterion where
  skippedFields : Nat := 0
  skippedChars : Nat := 0
  foldsCase : Bool := false
  limit : Option Nat := none

def Criterion.key (k : Criterion) (line : Octets) : Octets :=
  let rest := (Sorted.afterFields none k.skippedFields line).drop k.skippedChars
  let cut := match k.limit with
    | some n => rest.take n
    | none => rest
  if k.foldsCase then cut.map Char.toLower else cut

def rows (k : Criterion) (lines : List Octets) : List (List Octets) :=
  lines.splitBy fun x y ↦ k.key x == k.key y

def usage : Usage :=
  { choices :=
      [{ key := "c", names := ["count"] }, { key := "d", names := ["repeated"] }, { key := "D" },
       { key := "all-repeated", demand := .attached },
       { key := "f", names := ["skip-fields"], demand := .value },
       { key := "i", names := ["ignore-case"] },
       { key := "s", names := ["skip-chars"], demand := .value },
       { key := "u", names := ["unique"] }, { key := "z", names := ["zero-terminated"] },
       { key := "w", names := ["check-chars"], demand := .value }, { key := "group", demand := .attached }] }

def number (name : Octets) (g : Given) (key : String) (kind : String) : Job (Option Nat) := do
  match g.value? key with
  | none => pure none
  | some text =>
    match Text.natural? text with
    | some n => pure (some n)
    | none => Job.fail name (text ++ ": invalid number of ".toList ++ kind.toList)

/-- The line that stands for a row, with the number of its lines if that is asked for. -/
def shown (g : Given) (row : List Octets) : List Octets :=
  let isChosen := if g.has "d" ∧ g.has "u" then false
    else if g.has "d" then decide (1 < row.length)
    else if g.has "u" then row.length == 1
    else true
  match row with
  | line :: _ =>
    if !isChosen then []
    else if g.has "c" then [Text.padStart 7 ' ' (Text.numeral row.length) ++ ' ' :: line]
    else [line]
  | [] => []

/-- Rows of more than one line in full, perhaps with empty lines between them. -/
def repeatedRows (separation : String) (all : List (List Octets)) : List Octets :=
  let chosen := all.filter (1 < ·.length)
  match separation with
  | "prepend" => chosen.flatMap fun row ↦ [] :: row
  | "separate" => [[]].intercalate chosen
  | _ => chosen.flatten

/-- All rows in full with empty lines at them. -/
def groupedRows (separation : String) (all : List (List Octets)) : List Octets :=
  match separation with
  | "prepend" => all.flatMap fun row ↦ [] :: row
  | "append" => all.flatMap fun row ↦ row ++ [[]]
  | "both" => if all = [] then [] else [] :: all.flatMap fun row ↦ row ++ [[]]
  | _ => [[]].intercalate all

def result (g : Given) (all : List (List Octets)) : List Octets :=
  let attached (key : String) : String := String.ofList ((g.value? key).getD [])
  if g.has "group" then groupedRows (attached "group") all
  else if g.has "D" ∨ g.has "all-repeated" then repeatedRows (attached "all-repeated") all
  else all.flatMap (shown g)

end Uniq

/-- Shows one line of each row of equal lines. -/
def uniq : Program := fun name arguments ↦ do
  let given ← Job.understand Uniq.usage name arguments
  let criterion : Uniq.Criterion :=
    { skippedFields := (← Uniq.number name given "f" "fields to skip").getD 0
      skippedChars := (← Uniq.number name given "s" "bytes to skip").getD 0
      foldsCase := given.has "i"
      limit := ← Uniq.number name given "w" "bytes to compare" }
  match given.words with
  | _ :: _ :: extra :: _ => Job.extraOperand name extra
  | words =>
    let file := words.headD ['-']
    match ← Job.input file with
    | .error cause =>
      Job.fail name (if cause = .isDirectory then Job.refusal ("error reading ".toList ++ Quoting.always file) cause
        else Job.refusal (Quoting.needed file) cause)
    | .ok text =>
      let mark := if given.has "z" then '\x00' else '\n'
      let lines := Uniq.result given (Uniq.rows criterion (Octets.records mark text))
      let output := Octets.ended mark lines
      match words with
      | [_, sink] =>
        if sink = ['-'] then Job.put name output
        else
          match ← liftM (Process.openFile sink .replacing) with
          | .error cause => Job.fail name (Job.refusal (Quoting.needed sink) cause)
          | .ok file => discard (liftM (Process.writeOpen file output) : Job _)
      | _ => Job.put name output

/-! ## Lines in common -/

namespace Comm

/-- A line with where it is found: in the first file, in the second, or in both. -/
inductive Found where
  | first
  | second
  | both
  deriving DecidableEq, Repr

/-- The lines of two files in order. -/
def merge : List Octets → List Octets → List (Found × Octets)
  | [], ys => ys.map (Found.second, ·)
  | xs, [] => xs.map (Found.first, ·)
  | x :: xs, y :: ys =>
    if x = y then (.both, x) :: merge xs ys
    else if Octets.before x y then (.first, x) :: merge xs (y :: ys)
    else (.second, y) :: merge (x :: xs) ys
termination_by xs ys => xs.length + ys.length

def isSorted : List Octets → Bool
  | x :: y :: rest => Octets.upTo x y && isSorted (y :: rest)
  | _ => true

def usage : Usage :=
  { choices :=
      [{ key := "1" }, { key := "2" }, { key := "3" }, { key := "check-order" },
       { key := "nocheck-order" }, { key := "output-delimiter", demand := .value }, { key := "total" },
       { key := "z", names := ["zero-terminated"] }] }

def margin (g : Given) (delimiter : Octets) : Found → Octets
  | .first => []
  | .second => if g.has "1" then [] else delimiter
  | .both => (if g.has "1" then [] else delimiter) ++ (if g.has "2" then [] else delimiter)

def isShown (g : Given) : Found → Bool
  | .first => !g.has "1"
  | .second => !g.has "2"
  | .both => !g.has "3"

end Comm

/-- Shows which lines two sorted files have in common. -/
def comm : Program := fun name arguments ↦ do
  let given ← Job.understand Comm.usage name arguments
  match given.words with
  | [] => Job.missingOperand name
  | [file] => Job.missingOperand name [file]
  | _ :: _ :: extra :: _ => Job.extraOperand name extra
  | [first, second] =>
    let mark := if given.has "z" then '\x00' else '\n'
    let read (file : Octets) : Job (List Octets) := do
      match ← Job.input file with
      | .ok text => pure (Octets.records mark text)
      | .error cause => Job.fail name (Job.refusal (Quoting.needed file) cause)
    let xs ← read first
    let ys ← read second
    let delimiter := match given.value? "output-delimiter" with
      | some [] => ['\x00']
      | some text => text
      | none => ['\t']
    let found := Comm.merge xs ys
    let lines := (found.filter fun (place, _) ↦ Comm.isShown given place).map fun (place, line) ↦
      Comm.margin given delimiter place ++ line
    let count (place : Comm.Found) : Octets := Text.numeral (found.countP (·.1 == place))
    let total := if given.has "total" then
      [delimiter.intercalate [count .first, count .second, count .both, "total".toList]] else []
    Job.put name (Octets.ended mark (lines ++ total))
    let isPaired := found.all (·.1 == .both)
    let checks := given.has "check-order" || (!given.has "nocheck-order" && !isPaired)
    let unsorted := [(xs, 1), (ys, 2)].filter fun (lines, _) ↦ checks && !Comm.isSorted lines
    for (_, number) in unsorted do
      Job.complain name ("file ".toList ++ Text.numeral number ++ " is not in sorted order".toList)
    if unsorted ≠ [] then Job.fail name "input is not in sorted order".toList

/-! ## Lines with the same key -/

namespace Join

/-- A column of the output: the key, or a field of one of the files. -/
inductive Column where
  | key
  | field (second : Bool) (number : Nat)
  deriving DecidableEq, Repr

structure Request where
  firstKey : Nat := 1
  secondKey : Nat := 1
  separator : Option Char := none
  foldsCase : Bool := false
  /-- Whether lines without a partner are shown, from the first file and from the second. -/
  showsFirst : Bool := false
  showsSecond : Bool := false
  showsPairs : Bool := true
  filler : Octets := []
  columns : Option (List Column) := none

def Request.fields (r : Request) (line : Octets) : List Octets :=
  match r.separator with
  | some c => Octets.splitAt c line
  | none => (line.splitBy fun a b ↦ isBlank a == isBlank b).filter fun part ↦ !part.any isBlank

def Request.key (r : Request) (number : Nat) (fields : List Octets) : Octets :=
  let key := fields.getD (number - 1) []
  if r.foldsCase then key.map Char.toLower else key

/-- A field, or what stands for one that is missing or empty. -/
def Request.cell (r : Request) (fields : List Octets) (number : Nat) : Octets :=
  match fields[number - 1]? with
  | some [] => r.filler
  | some text => text
  | none => r.filler

/-- A line of the output for lines of both files, of which one may be missing. -/
def Request.line (r : Request) (first second : Option (List Octets)) : Octets :=
  let a := first.getD []
  let b := second.getD []
  let key := if first.isSome then r.cell a r.firstKey else r.cell b r.secondKey
  let others (fields : List Octets) (number : Nat) : List Octets :=
    (fields.eraseIdx (number - 1)).map fun text ↦ if text = [] then r.filler else text
  let cells := match r.columns with
    | some columns => columns.map fun
      | .key => key
      | .field false n => r.cell a n
      | .field true n => r.cell b n
    | none => key :: others a r.firstKey ++ others b r.secondKey
  [r.separator.getD ' '].intercalate cells

/-- The lines of the output for two files in order. -/
def Request.merge (r : Request) : (limit : Nat) → List (List Octets) → List (List Octets) → List Octets
  | 0, _, _ => []
  | _ + 1, [], ys => if r.showsSecond then ys.map fun y ↦ r.line none (some y) else []
  | _ + 1, xs, [] => if r.showsFirst then xs.map fun x ↦ r.line (some x) none else []
  | limit + 1, x :: xs, y :: ys =>
    let a := r.key r.firstKey x
    let b := r.key r.secondKey y
    if a = b then
      let left := (x :: xs).takeWhile fun z ↦ r.key r.firstKey z == a
      let right := (y :: ys).takeWhile fun z ↦ r.key r.secondKey z == a
      let pairs := left.flatMap fun u ↦ right.map fun v ↦ r.line (some u) (some v)
      (if r.showsPairs then pairs else []) ++
        r.merge limit ((x :: xs).drop left.length) ((y :: ys).drop right.length)
    else if Octets.before a b then
      (if r.showsFirst then [r.line (some x) none] else []) ++ r.merge limit xs (y :: ys)
    else (if r.showsSecond then [r.line none (some y)] else []) ++ r.merge limit (x :: xs) ys

def columns? (text : Octets) : Option (List Column) :=
  let parts := (text.splitBy fun a b ↦ (a == ',' || isBlank a) == (b == ',' || isBlank b)).filter
    fun part ↦ !part.any fun c ↦ c == ',' || isBlank c
  parts.mapM fun part ↦
    match part with
    | ['0'] => some .key
    | '1' :: '.' :: digits => (Text.natural? digits).map (.field false)
    | '2' :: '.' :: digits => (Text.natural? digits).map (.field true)
    | _ => none

def usage : Usage :=
  { choices :=
      [{ key := "a", demand := .value }, { key := "e", demand := .value },
       { key := "i", names := ["ignore-case"] }, { key := "j", demand := .value },
       { key := "o", demand := .value }, { key := "t", demand := .value },
       { key := "v", demand := .value }, { key := "1", demand := .value },
       { key := "2", demand := .value }, { key := "check-order" }, { key := "nocheck-order" },
       { key := "header" }, { key := "z", names := ["zero-terminated"] }] }

/-- The first line that comes too early, with its number. -/
def disorder? (r : Request) (number : Nat) : (line : Nat) → List Octets → Option (Nat × Octets)
  | n, x :: y :: rest =>
    if Octets.before (r.key number (r.fields y)) (r.key number (r.fields x)) then some (n + 1, y)
    else disorder? r number (n + 1) (y :: rest)
  | _, _ => none

end Join

/-- Joins lines of two sorted files by a field. -/
def join : Program := fun name arguments ↦ do
  let given ← Job.understand Join.usage name arguments
  let number (key : String) : Job (Option Nat) := do
    match given.value? key with
    | none => pure none
    | some text =>
      match Text.natural? text with
      | some (n + 1) => pure (some (n + 1))
      | _ => Job.fail name ("invalid field number: ".toList ++ Quoting.plain text)
  let both ← number "j"
  let firstKey ← number "1"
  let secondKey ← number "2"
  let separator ← match given.value? "t" with
    | none => pure none
    | some [] => pure (some '\n')
    | some [c] => pure (some c)
    | some text =>
      if text = "\\0".toList then pure (some '\x00')
      else Job.fail name ("multi-character tab ".toList ++ Quoting.plain text)
  let alone := given.values "v"
  let shows (n : Octets) : Bool := (given.values "a").contains n || alone.contains n
  let columns ← match given.values "o" with
    | [] => pure none
    | texts =>
      if texts = ["auto".toList] then pure none
      else
        match texts.mapM Join.columns? with
        | some found => pure (some found.flatten)
        | none => Job.fail name ("invalid field specifier: ".toList ++ Quoting.plain texts.flatten)
  let r : Join.Request :=
    { firstKey := (firstKey.or both).getD 1
      secondKey := (secondKey.or both).getD 1
      separator
      foldsCase := given.has "i"
      showsFirst := shows ['1']
      showsSecond := shows ['2']
      showsPairs := alone = []
      filler := (given.value? "e").getD []
      columns }
  match given.words with
  | [] => Job.missingOperand name
  | [file] => Job.missingOperand name [file]
  | _ :: _ :: extra :: _ => Job.extraOperand name extra
  | [first, second] =>
    let mark := if given.has "z" then '\x00' else '\n'
    let read (file : Octets) : Job (List Octets) := do
      match ← Job.input file with
      | .ok text => pure (Octets.records mark text)
      | .error cause => Job.fail name (Job.refusal (Quoting.needed file) cause)
    let xs ← read first
    let ys ← read second
    let (heads, xs', ys') := if given.has "header" then
        match xs, ys with
        | x :: more, y :: others => ([r.line (some (r.fields x)) (some (r.fields y))], more, others)
        | _, _ => ([], xs, ys)
      else ([], xs, ys)
    let lines := r.merge (xs'.length + ys'.length + 1) (xs'.map r.fields) (ys'.map r.fields)
    Job.put name (Octets.ended mark (heads ++ lines))
    if !given.has "nocheck-order" ∧ (lines.length < xs'.length ∨ lines.length < ys'.length) then
      let faults := [(first, r.firstKey, xs'), (second, r.secondKey, ys')].filterMap fun (file, key, all) ↦
        (Join.disorder? r key 1 all).map fun (n, line) ↦ (file, n, line)
      for (file, n, line) in faults do
        Job.complain name (file ++ ":".toList ++ Text.numeral n ++ ": is not sorted: ".toList ++ line)
      if faults ≠ [] then Job.fail name "input is not in sorted order".toList

end ProgressActions.Programs
