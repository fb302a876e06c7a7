import ProgressActions.Programs.Basic
import ProgressActions.Regex.Parser
import ProgressActions.Shell.Pattern

/-!
# Finding lines

`grep` shows the lines in which a pattern is found. Several patterns may be given, as fixed texts or as
regular expressions, and they may have to be found as words or to match whole lines.
-/

namespace ProgressActions.Programs

namespace Grep

/-! ## Patterns -/

structure Matcher where
  patterns : List Regex
  foldsCase : Bool := false
  wholeLines : Bool := false
  words : Bool := false

namespace Matcher

def reading (m : Matcher) (line : Octets) : Regex.Reading :=
  { text := line.toArray, foldsCase := m.foldsCase }

/-- The places where a pattern that begins at a place may end. -/
def stops (x : Regex) (r : Regex.Reading) (place : Nat) : List Nat :=
  if x.hasAgain then
    ((List.range (r.text.size + 1)).drop place).filter fun stop ↦
      (Regex.walk r (Regex.walkLimit r) x place [] fun found groups ↦
        if found = stop then some groups else none).isSome
  else Regex.ends r x [place]

def counts (m : Matcher) (r : Regex.Reading) (start stop : Nat) : Bool :=
  if m.wholeLines then start == 0 && stop == r.text.size
  else if m.words then !r.isAfterWord start && !r.isBeforeWord stop
  else true

def longestAt? (m : Matcher) (r : Regex.Reading) (place : Nat) : Option Nat :=
  (m.patterns.flatMap fun x ↦ (stops x r place).filter (m.counts r place)).max?

/-- The first and longest stretch that begins at a place or behind it. -/
def find? (m : Matcher) (r : Regex.Reading) (start : Nat) : Option (Nat × Nat) :=
  ((List.range (r.text.size + 1)).drop start).findSome? fun place ↦
    (m.longestAt? r place).map (place, ·)

def accepts (m : Matcher) (line : Octets) : Bool :=
  let r := m.reading line
  if m.wholeLines then (m.longestAt? r 0).isSome
  else if m.words then (m.find? r 0).isSome
  else m.patterns.any (·.isFound r)

/-- The stretches of a line that are not empty, one after another. -/
def allIn (m : Matcher) (r : Regex.Reading) : (limit : Nat) → (start : Nat) → List (Nat × Nat)
  | 0, _ => []
  | limit + 1, start =>
    match m.find? r start with
    | none => []
    | some (first, stop) =>
      if stop = first then m.allIn r limit (first + 1)
      else (first, stop) :: m.allIn r limit stop

/-- Without patterns nothing is found. -/
theorem accepts_nil (line : Octets) : accepts { patterns := [] } line = false := rfl

end Matcher

/-! ## Words -/

def usage : Usage :=
  { failure := 2
    choices :=
      [{ key := "E", names := ["extended-regexp"] }, { key := "F", names := ["fixed-strings"] },
       { key := "G", names := ["basic-regexp"] }, { key := "P", names := ["perl-regexp"] },
       { key := "e", names := ["regexp"], demand := .value },
       { key := "f", names := ["file"], demand := .value },
       { key := "i", names := ["ignore-case"] }, { key := "y" }, { key := "no-ignore-case" },
       { key := "w", names := ["word-regexp"] }, { key := "x", names := ["line-regexp"] },
       { key := "z", names := ["null-data"] }, { key := "s", names := ["no-messages"] },
       { key := "v", names := ["invert-match"] }, { key := "m", names := ["max-count"], demand := .value },
       { key := "b", names := ["byte-offset"] }, { key := "n", names := ["line-number"] },
       { key := "line-buffered" }, { key := "H", names := ["with-filename"] },
       { key := "h", names := ["no-filename"] }, { key := "label", demand := .value },
       { key := "o", names := ["only-matching"] }, { key := "q", names := ["quiet", "silent"] },
       { key := "binary-files", demand := .value }, { key := "a", names := ["text"] }, { key := "I" },
       { key := "d", names := ["directories"], demand := .value },
       { key := "D", names := ["devices"], demand := .value },
       { key := "r", names := ["recursive"] }, { key := "R", names := ["dereference-recursive"] },
       { key := "include", demand := .value }, { key := "exclude", demand := .value },
       { key := "exclude-from", demand := .value }, { key := "exclude-dir", demand := .value },
       { key := "L", names := ["files-without-match"] }, { key := "l", names := ["files-with-matches"] },
       { key := "c", names := ["count"] }, { key := "T", names := ["initial-tab"] },
       { key := "Z", names := ["null"] }, { key := "B", names := ["before-context"], demand := .value },
       { key := "A", names := ["after-context"], demand := .value },
       { key := "C", names := ["context"], demand := .value },
       { key := "color", names := ["colour"], demand := .attached },
       { key := "U", names := ["binary"] }] }

/-- The lines that explain how the program is called. -/
def usageText : Octets :=
  ("Usage: grep [OPTION]... PATTERNS [FILE]...\n" ++
    "Try 'grep --help' for more information.\n").toList

/-- Complains about words that are not understood. -/
def misused {α : Type} (name : Octets) (text? : Option Octets) : Job α := do
  match text? with
  | some text => Job.complain name text
  | none => pure ()
  Job.printError usageText
  Job.exit 2

/-- Words in which a number after a hyphen has become an amount of context. -/
def modernized (words : List Octets) : List Octets :=
  words.flatMap fun word ↦ match word with
    | '-' :: c :: rest =>
      let digits := (c :: rest).takeWhile Char.isDigit
      if digits = [] then [word]
      else
        let others := (c :: rest).drop digits.length
        ["-C".toList ++ digits] ++ (if others = [] then [] else ['-' :: others])
    | _ => [word]

/-- The way in which patterns are written: missing for fixed texts. -/
def style? (kind : String) : Option Regex.Style :=
  match kind with
  | "F" => none
  | "E" => some { Regex.Style.extended with admitsLoneClosing := true }
  | "P" => some { Regex.Style.extended with hasEscapes := true }
  | _ => some .basic

/-- A pattern with the short names of classes of characters spelled out. -/
def spelledOut : Octets → Octets
  | '\\' :: 'd' :: rest => "[0-9]".toList ++ spelledOut rest
  | '\\' :: 'D' :: rest => "[^0-9]".toList ++ spelledOut rest
  | '\\' :: c :: rest => '\\' :: c :: spelledOut rest
  | '(' :: '?' :: ':' :: rest => '(' :: spelledOut rest
  | c :: rest => c :: spelledOut rest
  | [] => []

/-- Whether a pattern holds a class of characters without the outer brackets. -/
def lacksBrackets (pattern : Octets) : Bool :=
  match pattern with
  | '[' :: ':' :: rest =>
    let inside := rest.takeWhile (· != ']')
    inside.length < rest.length && inside.getLast? == some ':'
  | _ => false

def matcher (name : Octets) (g : Given) (kind : String) (patterns : List Octets) : Job Matcher := do
  let mut found : List Regex := []
  for pattern in patterns do
    match style? kind with
    | none => found := Regex.literal pattern :: found
    | some style =>
      if lacksBrackets pattern then
        Job.fail name "character class syntax is [[:space:]], not [:space:]".toList 2
      if style.isExtended then
        match pattern with
        | c :: _ :: _ =>
          if c = '*' ∨ c = '+' ∨ c = '?' then
            Job.complain name ("warning: ".toList ++ c :: " at start of expression".toList)
        | _ => pure ()
      match Regex.parse style (if kind = "P" then spelledOut pattern else pattern) with
      | .ok x => found := x :: found
      | .error problem => Job.fail name problem.message.toList 2
  pure
    { patterns := found.reverse
      foldsCase := g.last? ["i", "y", "no-ignore-case"] == some "i" || g.has "y"
      wholeLines := g.has "x"
      words := g.has "w" }

/-! ## Output -/

structure Style where
  inverts : Bool
  limit : Option Nat
  before : Nat
  after : Nat
  showsNumbers : Bool
  showsOffsets : Bool
  showsNames : Bool
  onlyMatches : Bool
  counts : Bool
  lists : Bool
  listsOthers : Bool
  isQuiet : Bool
  isText : Bool
  skipsBinary : Bool
  mark : Char
  nameMark : Option Char
  label : Octets

/-- A line with its number, its offset, and whether it is selected. -/
structure Line where
  number : Nat
  offset : Nat
  text : Octets
  isSelected : Bool

def linesOf (m : Matcher) (s : Style) (text : Octets) : List Line :=
  let (_, _, found) := (Octets.records s.mark text).foldl (fun (number, offset, found) line ↦
    let here : Line :=
      { number := number + 1, offset, text := line, isSelected := m.accepts line != s.inverts }
    (number + 1, offset + line.length + 1, here :: found)) (0, 0, ([] : List Line))
  found.reverse

/-- What stands in front of a line or a match. -/
def front (s : Style) (file : Octets) (separator : Char) (number offset : Nat) : Octets :=
  let name := if !s.showsNames then [] else match s.nameMark with
    | some mark => file ++ [mark]
    | none => file ++ [separator]
  name ++ (if s.showsNumbers then Text.numeral number ++ [separator] else []) ++
    (if s.showsOffsets then Text.numeral offset ++ [separator] else [])

def shown (m : Matcher) (s : Style) (file : Octets) (separator : Char) (line : Line) : Octets :=
  if s.onlyMatches then
    if s.inverts ∨ !line.isSelected then []
    else
      let r := m.reading line.text
      (m.allIn r (line.text.length + 1) 0).flatMap fun (start, stop) ↦
        front s file separator line.number (line.offset + start) ++ Regex.stretch r start stop ++ [s.mark]
  else front s file separator line.number line.offset ++ line.text ++ [s.mark]

/-- Lines that are shown: which of all lines are near to a selected one, up to the greatest number of
those. -/
def chosen (s : Style) (all : Array Line) : List Line :=
  let selected := (all.toList.filter (·.isSelected)).map (·.number)
  let counted := match s.limit with
    | some n => selected.take n
    | none => selected
  let isNear : Nat → Bool := fun number ↦
    counted.any fun n ↦ n ≤ number + s.before && number ≤ n + s.after
  if s.before = 0 ∧ s.after = 0 then
    let last := counted.getLastD 0
    all.toList.filter fun line ↦ line.isSelected && line.number ≤ last
  else
    let last := counted.getLastD 0
    let next := ((selected.drop counted.length).head?).getD (all.size + 1)
    all.toList.filter fun line ↦
      isNear line.number && (line.number ≤ last || !line.isSelected && line.number < next)

/-- The output for all lines that are shown, with marks where lines are left out between them. -/
def render (m : Matcher) (s : Style) (file : Octets) (isFirst : Bool) (lines : List Line) : Octets :=
  let hasContext := 0 < s.before + s.after
  let (pieces, _) := lines.foldl (fun (pieces, last?) line ↦
    let isApart : Bool := match last? with
      | some last => last + 1 < line.number
      | none => !isFirst
    let gap : Octets := if hasContext ∧ isApart then "--\n".toList else []
    let text := shown m s file (if line.isSelected then ':' else '-') line
    ((gap ++ text) :: pieces, some line.number)) (([] : List Octets), (none : Option Nat))
  pieces.reverse.flatten

/-- Shows what is found in a text. The answers are whether a line was selected and whether lines have been
shown. -/
def search (name : Octets) (m : Matcher) (s : Style) (isFirst : Bool) (file text : Octets) :
    Job (Bool × Bool) := do
  let title := if file = ['-'] then s.label else file
  let all := linesOf m s text
  let selected := all.countP (·.isSelected)
  let count := match s.limit with
    | some n => min n selected
    | none => selected
  let isFound := 0 < count
  let isBinary := text.contains '\x00' && !s.isText && s.mark == '\n'
  let ending : Octets := match s.nameMark with
    | some mark => [mark]
    | none => ['\n']
  if isBinary ∧ s.skipsBinary then pure (false, false)
  else if s.isQuiet then
    if isFound then Job.exit 0 else pure (false, false)
  else if s.listsOthers then
    if !isFound then Job.put name (title ++ ending) 2
    pure (isFound, false)
  else if s.lists then
    if isFound then Job.put name (title ++ ending) 2
    pure (isFound, false)
  else if s.counts then
    let shownName := if s.showsNames then title ++ [s.nameMark.getD ':'] else []
    Job.put name (shownName ++ Text.numeral count ++ ['\n']) 2
    pure (isFound, false)
  else if isBinary then
    if isFound then Job.put name (name ++ ": ".toList ++ title ++ ": binary file matches\n".toList) 2
    pure (isFound, false)
  else
    let output := render m s title isFirst (chosen s all.toArray)
    Job.put name output 2
    pure (isFound, isFound)

/-! ## Files -/

/-- The files in a directory and below it that are to be searched. -/
def filesIn (g : Given) (m : Machine) : (limit : Nat) → (id : Nat) → (path : Octets) → List Octets
  | 0, _, _ => []
  | limit + 1, id, path =>
    (m.entries id).flatMap fun (entry, node) ↦
      let here := if path = [] then entry else Path.join path entry
      let matchesAny (key : String) : Bool := (g.values key).any fun glob ↦ Shell.Pattern.isMatch glob entry
      match m.body node with
      | .directory _ _ => if matchesAny "exclude-dir" then [] else filesIn g m limit node here
      | .file _ =>
        if matchesAny "exclude" ∨ (g.has "include" ∧ !matchesAny "include") then [] else [here]
      | _ => []

/-- The files that words stand for: what is in directories is searched if that is asked for. -/
def filesOf (p : Process) (g : Given) (isDeep : Bool) (words : List Octets) : List Octets :=
  words.flatMap fun word ↦
    match if isDeep ∧ word ≠ ['-'] then (p.node? word).toOption else none with
    | some id => if p.machine.isDirectory id then filesIn g p.machine p.machine.nodes.size id word else [word]
    | none => [word]

/-- Searches files, and yields whether a line was selected and whether something could not be read. -/
def run (name : Octets) (g : Given) (m : Matcher) (s : Style) :
    (isFirst : Bool) → List Octets → Job (Bool × Bool)
  | _, [] => pure (false, false)
  | isFirst, file :: rest => do
    match ← Job.input file with
    | .error cause =>
      if cause = .isDirectory ∧ g.value? "d" = some "skip".toList then run name g m s isFirst rest
      else
        if !g.has "s" then Job.complain name (Job.refusal file cause)
        let (isFound, _) ← run name g m s isFirst rest
        pure (isFound, true)
    | .ok text =>
      let (isFound, hasShown) ← search name m s isFirst file text
      let (others, isFaulty) ← run name g m s (isFirst && !hasShown) rest
      pure (isFound || others, isFaulty)

def number (name : Octets) (g : Given) (key : String) : Job (Option Nat) := do
  match g.value? key with
  | none => pure none
  | some text =>
    match Text.natural? text with
    | some n => pure (some n)
    | none =>
      if key = "m" then
        match text with
        | '-' :: digits =>
          if Text.isNumeral digits then pure none else Job.fail name "invalid max count".toList 2
        | _ => Job.fail name "invalid max count".toList 2
      else Job.fail name (text ++ ": invalid context length argument".toList) 2

end Grep

/-- Shows the lines in which patterns are found, written in a way of their own unless options name
another. -/
def grepWith (usual : String) : Program := fun name arguments ↦ do
  let given ← match Grep.usage.read (Grep.modernized arguments) with
    | .ok given => pure given
    | .error problem => Grep.misused name (some problem.message)
  let kind := (given.last? ["E", "F", "G", "P"]).getD usual
  let fromFiles ← (given.values "f").mapM fun file ↦ do
    match ← Job.input file with
    | .ok text => pure (Octets.records '\n' text)
    | .error cause => Job.fail name (Job.refusal file cause) 2
  let isGiven := given.has "e" || given.has "f"
  let patterns := (given.values "e").flatMap (Octets.splitAt '\n') ++ fromFiles.flatten
  let (patterns, words) ← match isGiven, given.words with
    | true, words => pure (patterns, words)
    | false, first :: rest => pure (Octets.splitAt '\n' first, rest)
    | false, [] => Grep.misused name none
  let context := (← Grep.number name given "C").getD 0
  let before := (← Grep.number name given "B").getD context
  let after := (← Grep.number name given "A").getD context
  let limit ← Grep.number name given "m"
  let matcher ← Grep.matcher name given kind patterns
  let isDeep := given.has "r" || given.has "R" || given.value? "d" == some "recurse".toList
  let p ← get
  let files := if words = [] then (if isDeep then Grep.filesIn given p.machine p.machine.nodes.size p.directory []
      else [['-']])
    else Grep.filesOf p given isDeep words
  let binary := String.ofList ((given.value? "binary-files").getD [])
  let s : Grep.Style :=
    { inverts := given.has "v"
      limit
      before
      after
      showsNumbers := given.has "n"
      showsOffsets := given.has "b"
      showsNames := match given.last? ["H", "h"] with
        | some key => key == "H"
        | none => isDeep || decide (1 < words.length)
      onlyMatches := given.has "o"
      counts := given.has "c"
      lists := given.has "l"
      listsOthers := given.last? ["l", "L"] == some "L"
      isQuiet := given.has "q"
      isText := given.has "a" || binary == "text"
      skipsBinary := given.has "I" || binary == "without-match"
      mark := if given.has "z" then '\x00' else '\n'
      nameMark := if given.has "Z" then some '\x00' else none
      label := (given.value? "label").getD "(standard input)".toList }
  let (isFound, isFaulty) ← Grep.run name given matcher s true files
  Job.exit (if isFaulty then 2 else if isFound then 0 else 1)

/-- Shows lines by basic regular expressions. -/
def grep : Program := grepWith "G"

/-- Shows lines by extended regular expressions. -/
def egrep : Program := grepWith "E"

/-- Shows lines by fixed texts. -/
def fgrep : Program := grepWith "F"

end ProgressActions.Programs
