import ProgressActions.Programs.Basic
import ProgressActions.Regex.Parser

/-!
# Lines turned, numbered and folded

`tac` turns the order of lines around and `rev` the order of characters in them. `nl` numbers lines, `fold`
breaks long ones, and `expand` and `unexpand` trade tabs for blanks.
-/

namespace ProgressActions.Programs

/-- Shows what a function makes of each file, and ends by whether all files could be read. -/
def eachFile (name : Octets) (files : List Octets) (f : Octets → Octets)
    (complaint : Octets → SystemError → Octets := fun file cause ↦ Job.refusal (Quoting.needed file) cause) :
    Job Unit := do
  let mut isWell := true
  for file in Job.inputs files do
    match ← Job.input file with
    | .error cause =>
      Job.complain name (complaint file cause)
      isWell := false
    | .ok text => Job.put name (f text)
  Job.finish isWell

/-! ## Turning around -/

namespace Tac

/-- The pieces of a text, each of which ends with a separator; the separator may be missing at the end. -/
def piecesBy (separator : Octets) : (limit : Nat) → (piece : Octets) → Octets → List Octets
  | 0, piece, text => [piece.reverse ++ text]
  | limit + 1, piece, text =>
    match text with
    | [] => if piece = [] then [] else [piece.reverse]
    | c :: rest =>
      if separator.isPrefixOf text then
        (piece.reverse ++ separator) :: piecesBy separator limit [] (text.drop separator.length)
      else piecesBy separator limit (c :: piece) rest

/-- The pieces of a text, each of which begins with a separator, but perhaps for the first. -/
def piecesBefore (separator text : Octets) : List Octets :=
  let after := piecesBy separator (text.length + 1) [] text
  let bare := after.map fun piece ↦
    if separator.isSuffixOf piece then (piece.take (piece.length - separator.length), true) else (piece, false)
  let (pieces, last) := bare.foldl (fun (pieces, front) (piece, hasMore) ↦
    ((front ++ piece) :: pieces, if hasMore then separator else [])) (([] : List Octets), ([] : Octets))
  (if last = [] then pieces else last :: pieces).reverse.filter (· != [])

def usage : Usage :=
  { choices :=
      [{ key := "b", names := ["before"] }, { key := "r", names := ["regex"] },
       { key := "s", names := ["separator"], demand := .value }] }

end Tac

/-- Shows the lines of files in the opposite order. -/
def tac : Program := fun name arguments ↦ do
  let given ← Job.understand Tac.usage name arguments
  let separator := match given.value? "s" with
    | some [] => ['\x00']
    | some text => text
    | none => ['\n']
  eachFile name given.words
    (fun text ↦
      let pieces := if given.has "b" then Tac.piecesBefore separator text
        else Tac.piecesBy separator (text.length + 1) [] text
      pieces.reverse.flatten)
    fun file cause ↦
      if cause = .isDirectory then Job.refusal (Quoting.needed file ++ ": read error".toList) .invalidArgument
      else Job.refusal ("failed to open ".toList ++ Quoting.always file ++ " for reading".toList) cause

/-- Shows lines with their characters in the opposite order. -/
def rev : Program := fun name arguments ↦ do
  eachFile name arguments
    (fun text ↦ (Octets.lines text).flatMap fun line ↦
      let bare := Octets.withoutFeed line
      bare.reverse ++ line.drop bare.length)
    fun file cause ↦ Job.refusal (if cause = .isDirectory then file else "cannot open ".toList ++ file) cause

/-! ## Numbering -/

namespace Nl

inductive Choice where
  | all
  | filled
  | none
  | matching (x : Regex)
  deriving DecidableEq

structure Style where
  header : Choice := .none
  body : Choice := .filled
  footer : Choice := .none
  start : Int := 1
  step : Int := 1
  /-- How many empty lines count as one. -/
  join : Nat := 1
  separator : Octets := ['\t']
  width : Nat := 6
  format : Octets := ['r', 'n']
  delimiter : Octets := "\\:".toList
  continues : Bool := false

/-- Numbering under way: the next number, which lines are numbered now, and how many empty lines are
behind. -/
structure Progress where
  number : Int
  choice : Choice
  empty : Nat := 0

def Style.numberText (s : Style) (n : Int) : Octets :=
  let text := Octets.ofInt n
  if s.format = ['l', 'n'] then text ++ List.replicate (s.width - text.length) ' '
  else if s.format = ['r', 'z'] then
    (if n < 0 then '-' :: Text.padStart (s.width - 1) '0' (Text.numeral n.natAbs)
     else Text.padStart s.width '0' text)
  else Text.padStart s.width ' ' text

/-- The output for a line, and how numbering goes on. -/
def Style.line (s : Style) (p : Progress) (line : Octets) : Octets × Progress :=
  let section? : Option Choice :=
    if line = s.delimiter ++ s.delimiter ++ s.delimiter then some s.header
    else if line = s.delimiter ++ s.delimiter then some s.body
    else if line = s.delimiter then some s.footer
    else Option.none
  match section? with
  | some choice =>
    (['\n'], { p with choice, number := if s.continues then p.number else s.start })
  | Option.none =>
    let plain := List.replicate (s.width + s.separator.length) ' ' ++ line ++ ['\n']
    let numbered := s.numberText p.number ++ s.separator ++ line ++ ['\n']
    let next := { p with number := p.number + s.step, empty := 0 }
    match p.choice with
    | .none => (plain, p)
    | .filled => if line = [] then (plain, p) else (numbered, next)
    | .matching x =>
      if x.isFound { text := line.toArray } then (numbered, next) else (plain, p)
    | .all =>
      if s.join ≤ 1 then (numbered, next)
      else if line ≠ [] then (numbered, next)
      else if p.empty + 1 = s.join then (numbered, next)
      else (plain, { p with empty := p.empty + 1 })

def usage : Usage :=
  { choices :=
      [{ key := "b", names := ["body-numbering"], demand := .value },
       { key := "d", names := ["section-delimiter"], demand := .value },
       { key := "f", names := ["footer-numbering"], demand := .value },
       { key := "h", names := ["header-numbering"], demand := .value },
       { key := "i", names := ["line-increment"], demand := .value },
       { key := "l", names := ["join-blank-lines"], demand := .value },
       { key := "n", names := ["number-format"], demand := .value },
       { key := "p", names := ["no-renumber"] },
       { key := "s", names := ["number-separator"], demand := .value },
       { key := "v", names := ["starting-line-number"], demand := .value },
       { key := "w", names := ["number-width"], demand := .value }] }

def choice (name : Octets) (g : Given) (key kind : String) (usual : Choice) : Job Choice := do
  match g.value? key with
  | Option.none => pure usual
  | some ['a'] => pure .all
  | some ['t'] => pure .filled
  | some ['n'] => pure .none
  | some ('p' :: text) =>
    match Regex.parse .basic text with
    | .ok x => pure (.matching x)
    | .error problem => Job.fail name problem.message.toList
  | some text =>
    Job.misused name ("invalid ".toList ++ kind.toList ++ " numbering style: ".toList ++ Quoting.plain text)

/-- A whole number among the options. -/
def number (name : Octets) (g : Given) (key kind : String) (least : Int) (usual : Int) : Job Int := do
  match g.value? key with
  | Option.none => pure usual
  | some text =>
    let value? : Option Int := match text with
      | '-' :: digits => (Text.natural? digits).map fun n ↦ -(n : Int)
      | _ => (Text.natural? text).map fun n ↦ (n : Int)
    match value? with
    | some n =>
      if n < least then
        Job.fail name ("invalid ".toList ++ kind.toList ++ ": ".toList ++ Quoting.plain text ++
          ": Numerical result out of range".toList)
      else pure n
    | Option.none => Job.fail name ("invalid ".toList ++ kind.toList ++ ": ".toList ++ Quoting.plain text)

end Nl

def nl : Program := fun name arguments ↦ do
  let given ← Job.understand Nl.usage name arguments
  let format ← match given.value? "n" with
    | none => pure ['r', 'n']
    | some text =>
      if [['l', 'n'], ['r', 'n'], ['r', 'z']].contains text then pure text
      else Job.misused name ("invalid line numbering format: ".toList ++ Quoting.plain text)
  let s : Nl.Style :=
    { header := ← Nl.choice name given "h" "header" .none
      body := ← Nl.choice name given "b" "body" .filled
      footer := ← Nl.choice name given "f" "footer" .none
      start := ← Nl.number name given "v" "starting line number" (-(Nat.pow 2 63)) 1
      step := ← Nl.number name given "i" "line number increment" (-(Nat.pow 2 63)) 1
      join := (← Nl.number name given "l" "line number of blank lines" 1 1).toNat
      separator := (given.value? "s").getD ['\t']
      width := (← Nl.number name given "w" "line number field width" 1 6).toNat
      format
      delimiter := match given.value? "d" with
        | some [c] => [c, ':']
        | some text => text
        | none => "\\:".toList
      continues := given.has "p" }
  let mut progress : Nl.Progress := { number := s.start, choice := s.body }
  let mut isWell := true
  for file in Job.inputs given.words do
    match ← Job.input file with
    | .error cause =>
      Job.complainOf name file cause
      isWell := false
    | .ok text =>
      let (shown, last) := (Octets.records '\n' text).foldl (fun (shown, p) line ↦
        let (piece, next) := s.line p line
        (piece :: shown, next)) (([] : List Octets), progress)
      progress := last
      Job.put name shown.reverse.flatten
  Job.finish isWell

/-! ## Columns -/

namespace Fold

def advance (countsOctets : Bool) (column : Nat) (c : Char) : Nat :=
  if countsOctets then column + 1
  else
    match c with
    | '\x08' => column - 1
    | '\x0d' => 0
    | '\t' => column + 8 - column % 8
    | _ => column + 1

def widthOf (countsOctets : Bool) (text : Octets) : Nat := text.foldl (advance countsOctets) 0

/-- A line in the making, its last character first, and the finished lines, the last one first. -/
structure Progress where
  done : List Octets := []
  line : Octets := []
  column : Nat := 0

def step (width : Nat) (countsOctets atBlanks : Bool) (p : Progress) (c : Char) : Progress :=
  let next := advance countsOctets p.column c
  if width < next ∧ p.line ≠ [] then
    let tail := if atBlanks then p.line.takeWhile fun d ↦ d != ' ' && d != '\t' else []
    let kept := if tail.length = p.line.length then [] else tail
    let front := p.line.drop kept.length
    let column := widthOf countsOctets kept.reverse
    { done := front.reverse :: p.done, line := c :: kept, column := advance countsOctets column c }
  else { p with line := c :: p.line, column := next }

def broken (width : Nat) (countsOctets atBlanks : Bool) (line : Octets) : List Octets :=
  let p := line.foldl (step width countsOctets atBlanks) {}
  (p.line.reverse :: p.done).reverse

def usage : Usage :=
  { choices :=
      [{ key := "b", names := ["bytes"] }, { key := "s", names := ["spaces"] },
       { key := "w", names := ["width"], demand := .value }] }

/-- Words in which widths after a hyphen have become values of an option. -/
def modernized (words : List Octets) : List Octets :=
  words.flatMap fun word ↦ match word with
    | '-' :: c :: rest => if c.isDigit then ["-w".toList ++ c :: rest] else [word]
    | _ => [word]

end Fold

def fold : Program := fun name arguments ↦ do
  let given ← Job.understand Fold.usage name (Fold.modernized arguments)
  let width ← match given.value? "w" with
    | none => pure 80
    | some text =>
      match Text.natural? text with
      | some (n + 1) => pure (n + 1)
      | some 0 =>
        Job.fail name ("invalid number of columns: ".toList ++ Quoting.plain text ++
          ": Numerical result out of range".toList)
      | none => Job.fail name ("invalid number of columns: ".toList ++ Quoting.plain text)
  eachFile name given.words fun text ↦
    (Octets.lines text).flatMap fun line ↦
      let bare := Octets.withoutFeed line
      ['\n'].intercalate (Fold.broken width (given.has "b") (given.has "s") bare) ++ line.drop bare.length

namespace Tabs

/-- Where tabs lead to: at all multiples of a number, or at some columns. -/
inductive Stops where
  | every (width : Nat)
  | at (columns : List Nat)
  deriving DecidableEq, Repr

def Stops.next (column : Nat) : Stops → Option Nat
  | .every width => some (column + width - column % width)
  | .at columns => columns.find? (column < ·)

def stops (text : Octets) : Except Octets Stops :=
  let parts := (text.splitBy fun a b ↦ (a == ',' || a == ' ') == (b == ',' || b == ' ')).filter
    fun part ↦ !part.any fun c ↦ c == ',' || c == ' '
  match parts.find? fun part ↦ !part.all Char.isDigit with
  | some part =>
    .error ("tab size contains invalid character(s): ".toList ++ Quoting.plain (part.dropWhile Char.isDigit))
  | none =>
    let numbers := parts.map Text.digitsValue
    if numbers.contains 0 then .error "tab size cannot be 0".toList
    else
      match numbers with
      | [] => .ok (.every 8)
      | [n] => .ok (.every n)
      | _ =>
        if (numbers.zip (numbers.drop 1)).all fun (a, b) ↦ a < b then .ok (.at numbers)
        else .error "tab sizes must be ascending".toList

/-- A line with tabs turned into blanks. -/
def expanded (s : Stops) (onlyStart : Bool) (line : Octets) : Octets :=
  let (pieces, _, _) := line.foldl (fun (pieces, column, isActive) c ↦
    if !isActive then ([c] :: pieces, column, false)
    else
      match c with
      | '\t' =>
        let next := (s.next column).getD (column + 1)
        (List.replicate (next - column) ' ' :: pieces, next, true)
      | '\x08' => ([c] :: pieces, column - 1, !onlyStart)
      | _ => ([c] :: pieces, column + 1, !onlyStart || c == ' ')) (([] : List Octets), 0, true)
  pieces.reverse.flatten

/-- Blanks that wait to be written: those in front of the last stop are tabs already. -/
structure Waiting where
  done : List Octets := []
  column : Nat := 0
  blanks : Octets := []
  isActive : Bool := true

/-- A line with blanks turned into tabs. -/
def unexpanded (s : Stops) (everywhere : Bool) (line : Octets) : Octets :=
  let last := line.foldl (fun (w : Waiting) c ↦
    if !w.isActive then { w with done := [c] :: w.done }
    else if c = ' ' ∨ c = '\t' then
      let next := s.next w.column
      match next with
      | none => { w with done := (w.blanks ++ [c]) :: w.done, blanks := [], column := w.column + 1 }
      | some stop =>
        if c = '\t' then { w with done := ['\t'] :: w.done, blanks := [], column := stop }
        else if w.column + 1 = stop then
          if w.blanks = [] then
            { w with blanks := [' '], column := stop }
          else { w with done := ['\t'] :: w.done, blanks := [], column := stop }
        else
          let settled := w.blanks.length = 1 ∧ s.next (w.column - 1) = some w.column
          if settled then { w with done := w.blanks :: w.done, blanks := [' '], column := w.column + 1 }
          else { w with blanks := w.blanks ++ [' '], column := w.column + 1 }
    else
      { done := [c] :: w.blanks :: w.done, blanks := [], column := w.column + 1,
        isActive := everywhere }) {}
  (last.blanks :: last.done).reverse.flatten

def usage : Usage :=
  { choices :=
      [{ key := "i", names := ["initial"] }, { key := "t", names := ["tabs"], demand := .value },
       { key := "a", names := ["all"] }, { key := "first-only" }] }

def given (name : Octets) (g : Given) : Job Stops :=
  match stops ([','].intercalate (g.values "t")) with
  | .ok found => pure found
  | .error text => Job.fail name text

/-- Words in which stops after a hyphen have become values of an option. -/
def modernized (words : List Octets) : List Octets :=
  words.flatMap fun word ↦ match word with
    | '-' :: c :: rest => if c.isDigit then ["-t".toList ++ c :: rest] else [word]
    | _ => [word]

end Tabs

def expand : Program := fun name arguments ↦ do
  let given ← Job.understand Tabs.usage name (Tabs.modernized arguments)
  let stops ← Tabs.given name given
  eachFile name given.words fun text ↦
    (Octets.lines text).flatMap fun line ↦
      let bare := Octets.withoutFeed line
      Tabs.expanded stops (given.has "i") bare ++ line.drop bare.length

def unexpand : Program := fun name arguments ↦ do
  let given ← Job.understand Tabs.usage name (Tabs.modernized arguments)
  let stops ← Tabs.given name given
  let everywhere := (given.has "a" || given.has "t") && !given.has "first-only"
  eachFile name given.words fun text ↦
    (Octets.lines text).flatMap fun line ↦
      let bare := Octets.withoutFeed line
      Tabs.unexpanded stops everywhere bare ++ line.drop bare.length

end ProgressActions.Programs
