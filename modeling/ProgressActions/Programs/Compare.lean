import ProgressActions.Programs.Cat
import ProgressActions.Programs.Listing

/-!
# Comparing files

`cmp` finds the first octet at which two files differ, and `diff` the lines that have to be changed to turn
one file into the other.
-/

namespace ProgressActions.Programs

/-! ## Octets -/

namespace Cmp

def usage : Usage :=
  { failure := 2
    choices :=
      [{ key := "b", names := ["print-bytes"] },
       { key := "i", names := ["ignore-initial"], demand := .value },
       { key := "l", names := ["verbose"] }, { key := "n", names := ["bytes"], demand := .value },
       { key := "s", names := ["quiet", "silent"] }] }

/-- The places at which two texts differ, with the octets there. -/
def differences (a b : Octets) : List (Nat × Char × Char) :=
  ((List.range (min a.length b.length)).zip (a.zip b)).filterMap fun (n, x, y) ↦
    if x = y then none else some (n, x, y)

/-- Complains about words that are not understood. -/
def misused {α : Type} (name text : Octets) : Job α := do
  Job.complain name text
  Job.complain name ("Try '".toList ++ name ++ " --help' for more information.".toList)
  Job.exit 2

end Cmp

/-- Finds the first octet at which two files differ. -/
def cmp : Program := fun name arguments ↦ do
  let given ← match Cmp.usage.read arguments with
    | .ok given => pure given
    | .error problem => Cmp.misused name problem.message
  match given.words with
  | [] => Cmp.misused name ("missing operand after ".toList ++ Quoting.plain name)
  | first :: rest =>
    let second := rest.headD ['-']
    let read (file : Octets) : Job Octets := do
      match ← Job.input file with
      | .ok text => pure text
      | .error cause => Job.fail name (Job.refusal file cause) 2
    let whole ← read first
    let other ← read second
    let skip := ((given.value? "i").bind Text.natural?).getD 0
    let cut (text : Octets) : Octets := match (given.value? "n").bind Text.natural? with
      | some n => (text.drop skip).take n
      | none => text.drop skip
    let a := cut whole
    let b := cut other
    let found := Cmp.differences a b
    let octal (c : Char) : Octets := Text.padStart 3 ' ' (Nat.toDigits 8 c.toNat)
    let shorter := if a.length < b.length then some first else if b.length < a.length then some second else none
    let least := min a.length b.length
    if given.has "s" then Job.exit (if found = [] ∧ shorter.isNone then 0 else 1)
    else if given.has "l" then
      let width := (Text.numeral least).length
      for (n, x, y) in found do
        Job.put name (Text.padStart width ' ' (Text.numeral (n + 1)) ++ ' ' :: octal x ++ ' ' :: octal y ++ ['\n'])
      match shorter with
      | some file => Job.complain name ("EOF on ".toList ++ file ++ " after byte ".toList ++ Text.numeral least)
      | none => pure ()
      Job.exit (if found = [] ∧ shorter.isNone then 0 else 1)
    else
      match found with
      | (n, x, y) :: _ =>
        let line := (a.take n).countP (· == '\n') + 1
        let unit := if given.has "b" then "byte" else "char"
        let octets := if given.has "b" then
            " is ".toList ++ octal x ++ ' ' :: Cat.spelled x.toNat ++ ' ' :: octal y ++ ' ' :: Cat.spelled y.toNat
          else []
        Job.put name (first ++ ' ' :: second ++ " differ: ".toList ++ unit.toList ++ ' ' :: Text.numeral (n + 1) ++
          ", line ".toList ++ Text.numeral line ++ octets ++ ['\n']) 2
        Job.exit 1
      | [] =>
        match shorter with
        | none => pure ()
        | some file =>
          let text := a.take least
          let feeds := text.countP (· == '\n')
          let whereTo := if least = 0 then " which is empty".toList
            else " after byte ".toList ++ Text.numeral least ++
              (if text.getLast? = some '\n' then ", line ".toList ++ Text.numeral feeds
               else ", in line ".toList ++ Text.numeral (feeds + 1))
          Job.complain name ("EOF on ".toList ++ file ++ whereTo)
          Job.exit 1

/-! ## Lines -/

namespace Diff

/-- Lines that are replaced: so many lines behind some in one file, by so many lines behind some in the
other. -/
structure Change where
  first : Nat
  removed : Nat
  second : Nat
  added : Nat
  deriving DecidableEq, Repr

/-- For each place in two files, how many lines they have in common from there on: the rows of a table, the
last one first. -/
def table (a b : Array Octets) : Array (Array Nat) :=
  let empty : Array Nat := Array.replicate (b.size + 1) 0
  let rows := (List.range a.size).foldl (fun (rows : List (Array Nat)) n ↦
    let line := a.getD (a.size - 1 - n) []
    let below := rows.headD empty
    let row := (List.range b.size).foldl (fun (row : Array Nat) k ↦
      let place := b.size - 1 - k
      let value := if b.getD place [] = line then below.getD (place + 1) 0 + 1
        else max (below.getD place 0) (row.getD (place + 1) 0)
      row.set! place value) empty
    row :: rows) [empty]
  rows.toArray

/-- The lines of both files that are kept: which of each file are not. -/
def marks (a b : Array Octets) : Array Bool × Array Bool :=
  let t := table a b
  let at' (i j : Nat) : Nat := (t.getD i #[]).getD j 0
  let rec go : (limit : Nat) → (i j : Nat) → Array Bool × Array Bool → Array Bool × Array Bool
    | 0, _, _, found => found
    | limit + 1, i, j, (x, y) =>
      if i < a.size ∧ j < b.size ∧ a.getD i [] = b.getD j [] ∧ at' i j = at' (i + 1) (j + 1) + 1 then
        go limit (i + 1) (j + 1) (x, y)
      else if i < a.size ∧ (b.size ≤ j ∨ at' (i + 1) j ≥ at' i (j + 1)) then
        go limit (i + 1) j (x.set! i true, y)
      else if j < b.size then go limit i (j + 1) (x, y.set! j true)
      else (x, y)
  go (a.size + b.size + 1) 0 0 (Array.replicate a.size false, Array.replicate b.size false)

/-- Marks in which each run stands as late as it can: a run moves on while the line behind it equals its
first line. -/
def settled (lines : Array Octets) (marked : Array Bool) : Array Bool :=
  let rec go : (limit : Nat) → (place : Nat) → Array Bool → Array Bool
    | 0, _, m => m
    | limit + 1, place, m =>
      if lines.size ≤ place then m
      else if !m.getD place false then go limit (place + 1) m
      else
        let length := ((m.toList.drop place).takeWhile id).length
        let behind := place + length
        if behind < lines.size ∧ lines.getD place [] = lines.getD behind [] then
          go limit (place + 1) ((m.set! place false).set! behind true)
        else go limit behind m
  go (2 * lines.size * (lines.size + 1) + 1) 0 marked

def changes (x y : Array Bool) : List Change :=
  let rec go : (limit : Nat) → (i j : Nat) → List Change
    | 0, _, _ => []
    | limit + 1, i, j =>
      let removed := ((x.toList.drop i).takeWhile id).length
      let added := ((y.toList.drop j).takeWhile id).length
      if removed + added ≠ 0 then
        ⟨i, removed, j, added⟩ :: go limit (i + removed) (j + added)
      else if x.size ≤ i ∧ y.size ≤ j then []
      else go limit (i + 1) (j + 1)
  go (x.size + y.size + 2) 0 0

/-- The changes between the keys of two files' lines. -/
def between (a b : Array Octets) : List Change :=
  let (x, y) := marks a b
  changes (settled a x) (settled b y)

/-- A line with a mark in front; a missing line feed is pointed out. -/
def marked (mark : String) (line : Octets) : Octets :=
  if line.getLast? = some '\n' then mark.toList ++ line
  else mark.toList ++ line ++ "\n\\ No newline at end of file\n".toList

def markedLines (mark : String) (lines : List Octets) : Octets := lines.flatMap (marked mark)

def rangeText (start count : Nat) : Octets :=
  if count = 0 then Text.numeral start
  else if count = 1 then Text.numeral (start + 1)
  else Text.numeral (start + 1) ++ ',' :: Text.numeral (start + count)

def usualText (a b : List Octets) (c : Change) : Octets :=
  let letter := if c.added = 0 then 'd' else if c.removed = 0 then 'a' else 'c'
  rangeText c.first c.removed ++ letter :: rangeText c.second c.added ++ '\n' ::
    markedLines "< " ((a.drop c.first).take c.removed) ++
    (if letter = 'c' then "---\n".toList else []) ++
    markedLines "> " ((b.drop c.second).take c.added)

def grouped (context : Nat) (all : List Change) : List (List Change) :=
  all.splitBy fun c d ↦ d.first - (c.first + c.removed) ≤ 2 * context

/-- The lines around a group of changes: where they begin and how many there are, in both files. -/
def extent (context : Nat) (a b : List Octets) (group : List Change) : (Nat × Nat) × (Nat × Nat) :=
  let start := group.headD ⟨0, 0, 0, 0⟩
  let last := group.getLastD start
  let before := min context start.first
  let behind := min context (a.length - (last.first + last.removed))
  let reach (low high size : Nat) : Nat × Nat := (low, min size high - low)
  (reach (start.first - before) (last.first + last.removed + behind) a.length,
    reach (start.second - before) (last.second + last.added + behind) b.length)

def unifiedText (context : Nat) (a b : List Octets) (group : List Change) : Octets :=
  let ((i, m), (j, n)) := extent context a b group
  let range (start count : Nat) : Octets :=
    if count = 1 then Text.numeral (start + 1)
    else Text.numeral (if count = 0 then start else start + 1) ++ ',' :: Text.numeral count
  let head := "@@ -".toList ++ range i m ++ " +".toList ++ range j n ++ " @@\n".toList
  let (body, place) := group.foldl (fun (text, place) c ↦
    let kept := (a.drop place).take (c.first - place)
    (text ++ markedLines " " kept ++ markedLines "-" ((a.drop c.first).take c.removed) ++
      markedLines "+" ((b.drop c.second).take c.added), c.first + c.removed)) (([] : Octets), i)
  head ++ body ++ markedLines " " ((a.drop place).take (i + m - place))

/-- A group of changes with lines around them, one file after the other. -/
def contextText (context : Nat) (a b : List Octets) (group : List Change) : Octets :=
  let ((i, m), (j, n)) := extent context a b group
  let range (start count : Nat) : Octets :=
    if count ≤ 1 then Text.numeral (start + count)
    else Text.numeral (start + 1) ++ ',' :: Text.numeral (start + count)
  let side (lines : List Octets) (start count : Nat) (mark : String) (of : Change → Nat × Nat)
      (other : Change → Nat) : Octets :=
    let (text, place) := group.foldl (fun (text, place) c ↦
      let (low, size) := of c
      let sign := if other c = 0 then mark else "! "
      (text ++ markedLines "  " ((lines.drop place).take (low - place)) ++
        markedLines sign ((lines.drop low).take size), low + size)) (([] : Octets), start)
    text ++ markedLines "  " ((lines.drop place).take (start + count - place))
  let removes := group.any (·.removed != 0)
  let adds := group.any (·.added != 0)
  "***************\n*** ".toList ++ range i m ++ " ****\n".toList ++
    (if removes then side a i m "- " (fun c ↦ (c.first, c.removed)) (·.added) else []) ++
    "--- ".toList ++ range j n ++ " ----\n".toList ++
    (if adds then side b j n "+ " (fun c ↦ (c.second, c.added)) (·.removed) else [])

def editText (b : List Octets) (c : Change) : Octets :=
  let letter := if c.added = 0 then 'd' else if c.removed = 0 then 'a' else 'c'
  rangeText c.first c.removed ++ letter :: '\n' ::
    (if c.added = 0 then [] else ((b.drop c.second).take c.added).flatten ++ ".\n".toList)

def usage : Usage :=
  { failure := 2
    choices :=
      [{ key := "a", names := ["text"] }, { key := "b", names := ["ignore-space-change"] },
       { key := "B", names := ["ignore-blank-lines"] }, { key := "c" },
       { key := "C", names := ["context"], demand := .value }, { key := "d", names := ["minimal"] },
       { key := "e", names := ["ed"] }, { key := "i", names := ["ignore-case"] },
       { key := "label", names := [], demand := .value }, { key := "L", demand := .value },
       { key := "N", names := ["new-file"] }, { key := "p" }, { key := "q", names := ["brief"] },
       { key := "r", names := ["recursive"] }, { key := "s", names := ["report-identical-files"] },
       { key := "t", names := ["expand-tabs"] }, { key := "u" },
       { key := "U", names := ["unified"], demand := .value }, { key := "normal" },
       { key := "w", names := ["ignore-all-space"] }, { key := "Z", names := ["ignore-trailing-space"] },
       { key := "color", demand := .attached }, { key := "strip-trailing-cr" }] }

def key (g : Given) (line : Octets) : Octets :=
  let folded := if g.has "i" then line.map Char.toLower else line
  if g.has "w" then folded.filter (!Octets.isSpace ·)
  else if g.has "b" then
    let parts := (folded.splitBy fun c d ↦ Octets.isSpace c == Octets.isSpace d).map fun part ↦
      if part.all Octets.isSpace then [' '] else part
    let joined := parts.flatten
    if joined.getLast? = some ' ' then joined.dropLast else joined
  else if g.has "Z" then (folded.reverse.dropWhile Octets.isSpace).reverse
  else folded

/-- The differences of two texts, in the form that is asked for. -/
def text (g : Given) (m : Machine) (firstName secondName : Octets) (firstTime secondTime : Int)
    (a b : List Octets) : Octets :=
  let keys (lines : List Octets) : Array Octets := (lines.map (key g)).toArray
  let isBlank (lines : List Octets) : Bool := lines.all (·.all fun c ↦ c == '\n')
  let all := (between (keys a) (keys b)).filter fun c ↦
    !(g.has "B" && isBlank ((a.drop c.first).take c.removed) && isBlank ((b.drop c.second).take c.added))
  let labels := (g.options.filterMap fun (key, value) ↦ if key = "label" ∨ key = "L" then value else none)
  let title (n : Nat) (name : Octets) (time : Int) : Octets := match labels[n]? with
    | some label => label
    | none => name ++ '\t' :: momentText "%Y-%m-%d %H:%M:%S.000000000 +0000" time
  let head (x y : String) : Octets :=
    x.toList ++ title 0 firstName firstTime ++ '\n' :: y.toList ++ title 1 secondName secondTime ++ ['\n']
  let number (key : String) : Nat := ((g.value? key).bind Text.natural?).getD 3
  let _ := m
  if all = [] then []
  else
    match g.last? ["c", "C", "u", "U", "e", "normal"] with
    | some "u" => head "--- " "+++ " ++ (grouped 3 all).flatMap (unifiedText 3 a b)
    | some "U" => head "--- " "+++ " ++ (grouped (number "U") all).flatMap (unifiedText (number "U") a b)
    | some "c" => head "*** " "--- " ++ (grouped 3 all).flatMap (contextText 3 a b)
    | some "C" => head "*** " "--- " ++ (grouped (number "C") all).flatMap (contextText (number "C") a b)
    | some "e" => all.reverse.flatMap (editText b)
    | _ => all.flatMap (usualText a b)

/-- Compares two files, and yields the status. -/
def files (name : Octets) (g : Given) (heading : Octets) (first second : Octets) : Job Nat := do
  let p ← get
  let isThere (file : Octets) : Bool := file == ['-'] || (p.node? file).toOption.isSome
  let read (file : Octets) : Job (Except SystemError Octets) :=
    if g.has "N" ∧ !isThere file then pure (.ok []) else Job.input file
  let time (file : Octets) : Int := match p.node? file with
    | .ok node => (p.machine.node node).modified
    | .error _ => 0
  match ← read first, ← read second with
  | .ok x, .ok y =>
    let shown (file : Octets) : Octets := Quoting.needed file
    if x = y then
      if g.has "s" then
        Job.put name ("Files ".toList ++ shown first ++ " and ".toList ++ shown second ++ " are identical\n".toList)
      pure 0
    else
      let isBinary := x.contains '\x00' || y.contains '\x00'
      if isBinary ∧ !g.has "a" ∧ !g.has "q" then
        Job.put name ("Binary files ".toList ++ shown first ++ " and ".toList ++ shown second ++ " differ\n".toList)
        pure 2
      else
        let difference := text g p.machine first second (time first) (time second) (Octets.lines x) (Octets.lines y)
        if difference = [] then pure 0
        else if g.has "q" then
          Job.put name ("Files ".toList ++ shown first ++ " and ".toList ++ shown second ++ " differ\n".toList)
          pure 1
        else
          Job.put name (heading ++ difference)
          pure 1
  | .error cause, .ok _ =>
    Job.complain name (Job.refusal first cause)
    pure 2
  | .ok _, .error cause =>
    Job.complain name (Job.refusal second cause)
    pure 2
  | .error cause, .error other =>
    Job.complain name (Job.refusal first cause)
    Job.complain name (Job.refusal second other)
    pure 2

/-- Compares what is in two directories, and yields the status. -/
def directories (name : Octets) (g : Given) (command : Octets) : (limit : Nat) → (first second : Octets) → Job Nat
  | 0, _, _ => pure 2
  | limit + 1, first, second => do
    let p ← get
    let entriesOf (path : Octets) : List Octets := match p.node? path with
      | .ok node => (p.machine.entries node).map (·.1)
      | .error _ => []
    let a := entriesOf first
    let b := entriesOf second
    let all := (a ++ b.filter fun entry ↦ !a.contains entry).mergeSort Octets.upTo
    let isDirectory (path : Octets) : Bool := match p.node? path with
      | .ok node => p.machine.isDirectory node
      | .error _ => false
    let mut status := 0
    for entry in all do
      let x := Path.join first entry
      let y := Path.join second entry
      let inBoth := a.contains entry && b.contains entry
      let here ←
        if !inBoth ∧ !g.has "N" then do
          let place := if a.contains entry then first else second
          Job.put name ("Only in ".toList ++ place ++ ": ".toList ++ entry ++ ['\n'])
          pure 1
        else if isDirectory x ∧ isDirectory y then
          if g.has "r" then directories name g command limit x y
          else do
            Job.put name ("Common subdirectories: ".toList ++ x ++ " and ".toList ++ y ++ ['\n'])
            pure 0
        else files name g (command ++ ' ' :: x ++ ' ' :: y ++ ['\n']) x y
      status := max status here
    pure status

end Diff

/-- Shows the lines in which two files differ. -/
def diff : Program := fun name arguments ↦ do
  let given ← match Diff.usage.read arguments with
    | .ok given => pure given
    | .error problem => Cmp.misused name problem.message
  let p ← get
  let isDirectory (path : Octets) : Bool := match p.node? path with
    | .ok node => path != ['-'] && p.machine.isDirectory node
    | .error _ => false
  match given.words with
  | [] => Cmp.misused name ("missing operand after ".toList ++ Quoting.plain name)
  | [word] => Cmp.misused name ("missing operand after ".toList ++ Quoting.plain word)
  | _ :: _ :: extra :: _ => Cmp.misused name ("extra operand ".toList ++ Quoting.plain extra)
  | [first, second] =>
    let options := arguments.filter fun word ↦ !given.words.contains word
    let command := Octets.spaced (name :: options)
    let status ← match isDirectory first, isDirectory second with
      | true, true => Diff.directories name given command p.machine.nodes.size first second
      | true, false => Diff.files name given [] (Path.join first (Path.base second)) second
      | false, true => Diff.files name given [] first (Path.join second (Path.base first))
      | false, false => Diff.files name given [] first second
    Job.exit status

end ProgressActions.Programs
