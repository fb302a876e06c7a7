import ProgressActions.Programs.Basic

/-!
# Counting

`wc` counts lines, words and octets of files, and measures their longest lines.
-/

namespace ProgressActions.Programs

structure Counts where
  lines : Nat := 0
  words : Nat := 0
  octets : Nat := 0
  /-- The width of the longest line. -/
  longest : Nat := 0
  deriving DecidableEq, Repr

namespace Counts

/-- Counting under way: the counts, whether a word is under way, and the width of the line so far. -/
structure Progress where
  counts : Counts := {}
  isInWord : Bool := false
  column : Nat := 0

def step (p : Progress) (c : Char) : Progress :=
  let counts := { p.counts with
    lines := if c = '\n' then p.counts.lines + 1 else p.counts.lines
    words := if !p.isInWord && !Octets.isSpace c then p.counts.words + 1 else p.counts.words
    octets := p.counts.octets + 1 }
  let isReturn := c == '\n' || c == '\x0d' || c == '\x0c'
  let column := if isReturn then 0
    else if c = '\t' then p.column + 8 - p.column % 8
    else if Quoting.isPrintable c then p.column + 1
    else p.column
  { counts := { counts with longest := max counts.longest column }
    isInWord := !Octets.isSpace c
    column }

def of (text : Octets) : Counts := (text.foldl step {}).counts

/-- The counts of two files together. -/
def add (a b : Counts) : Counts :=
  { lines := a.lines + b.lines
    words := a.words + b.words
    octets := a.octets + b.octets
    longest := max a.longest b.longest }

theorem octets_foldl (text : Octets) (p : Progress) :
    (text.foldl step p).counts.octets = p.counts.octets + text.length := by
  induction text generalizing p with
  | nil => rfl
  | cons c rest ih =>
    rw [List.foldl_cons, ih, List.length_cons]
    simp only [step]
    omega

/-- Every octet counts. -/
theorem octets_of (text : Octets) : (of text).octets = text.length := by
  simp [of, octets_foldl]

end Counts

namespace Wc

def usage : Usage :=
  { choices :=
      [{ key := "c", names := ["bytes"] }, { key := "m", names := ["chars"] },
       { key := "l", names := ["lines"] }, { key := "w", names := ["words"] },
       { key := "L", names := ["max-line-length"] },
       { key := "files0-from", demand := .value }, { key := "total", demand := .value }] }

def figures (g : Given) (c : Counts) : List Nat :=
  let chosen := ["c", "m", "l", "w", "L"].any g.has
  let shows (key : String) (isUsual : Bool) : Bool := if chosen then g.has key else isUsual
  (if shows "l" true then [c.lines] else []) ++ (if shows "w" true then [c.words] else []) ++
    (if shows "m" false then [c.octets] else []) ++ (if shows "c" true then [c.octets] else []) ++
    (if shows "L" false then [c.longest] else [])

def line (g : Given) (width : Nat) (file : Octets) (c : Counts) : Octets :=
  let columns := (figures g c).map fun n ↦ Text.padStart width ' ' (Text.numeral n)
  Octets.spaced columns ++ (if file = [] then [] else ' ' :: file) ++ ['\n']

/-- The node that a file, or the standard input, is. -/
def node? (p : Process) (file : Octets) : Option Nat :=
  if file = ['-'] then (p.openOf? 0).map fun n ↦ (p.machine.opens.getD n default).node
  else (p.node? file).toOption

def width (p : Process) (g : Given) (files : List Octets) : Nat :=
  if files.length = 1 ∧ (figures g {}).length = 1 ∨ (files.head?.map (node? p)) = some none then 1
  else
    let nodes := files.filterMap (node? p)
    let sizes := (nodes.filter p.machine.isRegular).map p.machine.size
    let least := if nodes.all p.machine.isRegular then 1 else 7
    max least (Text.numeral (sizes.foldl (· + ·) 0)).length

/-- Shows the counts of files, and yields their sum and whether all of them could be read. -/
def run (name : Octets) (g : Given) (width : Nat) (shows : Bool) : Counts → List Octets → Job (Counts × Bool)
  | total, [] => pure (total, true)
  | total, file :: rest => do
    let shownName := if g.words = [] then [] else file
    match ← Job.input file with
    | .ok text =>
      let counts := Counts.of text
      if shows then Job.put name (line g width shownName counts)
      run name g width shows (total.add counts) rest
    | .error cause =>
      Job.complainOf name file cause
      if cause = .isDirectory ∧ shows then Job.put name (line g width shownName {})
      let (all, _) ← run name g width shows total rest
      pure (all, false)

/-- When a line of sums is shown: always, never, alone, or for several files. -/
def totalKind (name : Octets) (g : Given) : Job String :=
  match g.value? "total" with
  | none => pure "auto"
  | some text =>
    match ["auto", "always", "only", "never"].filter fun word ↦ text.isPrefixOf word.toList with
    | [kind] => pure kind
    | _ => Job.misused name ("invalid argument ".toList ++ Quoting.plain text ++
        " for '--total'\nValid arguments are:\n  - 'auto'\n  - 'always'\n  - 'only'\n  - 'never'".toList)

end Wc

/-- Counts lines, words and octets. -/
def wc : Program := fun name arguments ↦ do
  let given ← Job.understand Wc.usage name arguments
  let kind ← Wc.totalKind name given
  let files := Job.inputs given.words
  let p ← get
  let width := if kind = "only" then 1 else Wc.width p given files
  let (total, isWell) ← Wc.run name given width (kind != "only") {} files
  let showsTotal := kind == "always" || kind == "only" || (kind == "auto" && decide (1 < files.length))
  if showsTotal then
    Job.put name (Wc.line given width (if kind = "only" then [] else "total".toList) total)
  Job.finish isWell

end ProgressActions.Programs
