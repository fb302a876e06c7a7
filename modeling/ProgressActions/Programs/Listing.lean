import ProgressActions.Calendar.Text
import ProgressActions.Machine.Permissions
import ProgressActions.Process.Tree
import ProgressActions.Programs.Copying
import ProgressActions.Programs.Sorted

/-!
# Looking at files

`ls` lists what is in directories, `stat` shows what is known about files, and `readlink` and `realpath`
show where links lead to.
-/

namespace ProgressActions.Programs

/-! ## What files are -/

namespace Kind

def letter : Body → Char
  | .directory _ _ => 'd'
  | .link _ => 'l'
  | .stream _ => 'p'
  | .file _ => '-'
  | .program _ => '-'
  | _ => 'c'

def description : Body → String
  | .directory _ _ => "directory"
  | .link _ => "symbolic link"
  | .stream _ => "fifo"
  | .file content => if content.size = 0 then "regular empty file" else "regular file"
  | .program _ => "regular file"
  | _ => "character special file"

def bits : Body → Nat
  | .directory _ _ => 0o040000
  | .link _ => 0o120000
  | .stream _ => 0o010000
  | .file _ => 0o100000
  | .program _ => 0o100000
  | _ => 0o020000

/-- The mark for the kind of a file behind its name. -/
def mark (isExecutable : Bool) : Body → Octets
  | .directory _ _ => ['/']
  | .link _ => ['@']
  | .stream _ => ['|']
  | .file _ => if isExecutable then ['*'] else []
  | .program _ => if isExecutable then ['*'] else []
  | _ => []

end Kind

/-- How many blocks of half a kibibyte a file takes up. -/
def blocks (m : Machine) (id : Nat) : Nat :=
  match m.body id with
  | .directory _ _ => 8
  | .file content => (content.size + 4095) / 4096 * 8
  | .program _ => (m.size id + 4095) / 4096 * 8
  | _ => 0

/-- How many names lead to a file. -/
def nameCount (m : Machine) (id : Nat) : Nat :=
  if m.isDirectory id then 2 + ((m.entries id).countP fun (_, node) ↦ m.isDirectory node)
  else m.linkCount id

def momentText (pattern : String) (moment : Int) : Octets :=
  (Calendar.timeText? pattern.toList (Calendar.LocalTime.ofUnix? moment 0 0)).getD []

/-! ## Listings -/

namespace Ls

def usage : Usage :=
  { failure := 2
    choices :=
      ["1", "c", "C", "f", "g", "k", "l", "m", "n", "o", "q", "S", "t", "u", "U", "v", "x", "X",
       "Z"].map (fun key ↦ { key }) ++
        [{ key := "a", names := ["all"] }, { key := "A", names := ["almost-all"] },
         { key := "b", names := ["escape"] }, { key := "B", names := ["ignore-backups"] },
         { key := "d", names := ["directory"] }, { key := "F" },
         { key := "classify", demand := .attached }, { key := "G", names := ["no-group"] },
         { key := "h", names := ["human-readable"] }, { key := "H" }, { key := "si" },
         { key := "i", names := ["inode"] }, { key := "I", names := ["ignore"], demand := .value },
         { key := "L", names := ["dereference"] }, { key := "N", names := ["literal"] }, { key := "p" },
         { key := "Q", names := ["quote-name"] }, { key := "r", names := ["reverse"] },
         { key := "R", names := ["recursive"] }, { key := "s", names := ["size"] },
         { key := "w", names := ["width"], demand := .value },
         { key := "T", names := ["tabsize"], demand := .value },
         { key := "color", demand := .attached }, { key := "sort", demand := .value },
         { key := "time", demand := .value }, { key := "time-style", demand := .value },
         { key := "full-time" }, { key := "format", demand := .value },
         { key := "indicator-style", demand := .value }, { key := "file-type" },
         { key := "quoting-style", demand := .value }, { key := "group-directories-first" },
         { key := "block-size", demand := .value }, { key := "author" }, { key := "show-control-chars" },
         { key := "hide-control-chars" }, { key := "numeric-uid-gid" }, { key := "hide", demand := .value }] }

/-- Something that is listed: the name under which it is, and its node. -/
structure Item where
  name : Octets
  id : Nat

inductive Form where
  | single
  | long
  | columns (across : Bool)
  | commas
  deriving DecidableEq

def form (g : Given) : Form :=
  match g.last? ["1", "C", "g", "l", "m", "n", "o", "x", "full-time", "numeric-uid-gid"] with
  | some "C" => .columns false
  | some "x" => .columns true
  | some "m" => .commas
  | some "1" => if ["g", "l", "n", "o"].any g.has then .long else .single
  | some _ => .long
  | none =>
    match (g.value? "format").map String.ofList with
    | some "long" => .long
    | some "verbose" => .long
    | some "commas" => .commas
    | some "across" => .columns true
    | some "horizontal" => .columns true
    | some "vertical" => .columns false
    | _ => .single

def shownName (g : Given) (name : Octets) : Octets :=
  let escaped (special : Char → Bool) : Octets := name.flatMap fun c ↦
    if special c then ['\\', c] else if Quoting.isPrintable c then [c] else Quoting.escape c
  match g.last? ["b", "N", "Q"] with
  | some "Q" => ['"'] ++ escaped (fun c ↦ c == '"' || c == '\\') ++ ['"']
  | some "b" => escaped fun c ↦ c == ' ' || c == '\\'
  | _ => if g.has "q" then name.map fun c ↦ if Quoting.isPrintable c then c else '?' else name

def markedName (g : Given) (m : Machine) (item : Item) : Octets :=
  let body := m.body item.id
  let mark := if g.has "F" ∨ g.has "classify" then Kind.mark (m.isExecutable item.id) body
    else if g.has "file-type" then Kind.mark false body
    else if g.has "p" ∧ m.isDirectory item.id then ['/']
    else []
  shownName g item.name ++ mark

def isBefore (g : Given) (m : Machine) (a b : Item) : Bool :=
  let byName := Octets.upTo a.name b.name
  let key := match g.value? "sort" with
    | some text => match String.ofList text with
      | "size" => "S"
      | "time" => "t"
      | "version" => "v"
      | "extension" => "X"
      | "none" => "U"
      | _ => "name"
    | none => (g.last? ["S", "t", "v", "X", "U", "f"]).getD "name"
  let ofPoint (name : Octets) : Octets :=
    if name.contains '.' then '.' :: (name.reverse.takeWhile (· != '.')).reverse else []
  match key with
  | "S" => let (x, y) := (m.size a.id, m.size b.id); y < x || (x == y && byName)
  | "t" =>
    let (x, y) := ((m.node a.id).modified, (m.node b.id).modified)
    y < x || (x == y && byName)
  | "v" => (Sorted.compareVersions a.name b.name) != .gt
  | "X" =>
    let (x, y) := (ofPoint a.name, ofPoint b.name)
    Octets.before x y || (x == y && byName)
  | "U" => true
  | "f" => true
  | _ => byName

def ordered (g : Given) (m : Machine) (items : List Item) : List Item :=
  let sorted := items.mergeSort (isBefore g m)
  let turned := if g.has "r" then sorted.reverse else sorted
  if g.has "group-directories-first" then
    turned.filter (fun i ↦ m.isDirectory i.id) ++ turned.filter fun i ↦ !m.isDirectory i.id
  else turned

def humanSize (n : Nat) : Octets :=
  let rec climb : (limit : Nat) → (divisor : Nat) → List Char → Octets
    | limit + 1, divisor, unit :: rest =>
      if n < 1024 * divisor then
        let tenths := (10 * n + divisor - 1) / divisor
        (if tenths < 100 then Text.numeral (tenths / 10) ++ '.' :: Text.numeral (tenths % 10)
         else Text.numeral ((n + divisor - 1) / divisor)) ++ [unit]
      else climb limit (divisor * 1024) rest
    | _, _, _ => Text.numeral n
  if n < 1024 then Text.numeral n else climb 8 1024 "KMGTPEZY".toList

/-- The cells of a line about something in a long listing, without its name. -/
def cells (g : Given) (m : Machine) (item : Item) : List Octets :=
  let node := m.node item.id
  let size : Octets := match node.body with
    | .null => "1, 3".toList
    | .zero => "1, 5".toList
    | .full => "1, 7".toList
    | .absent => "5, 0".toList
    | _ => if g.has "h" then humanSize (m.size item.id) else Text.numeral (m.size item.id)
  let user : Octets := if g.has "n" then ['0'] else "root".toList
  [Kind.letter node.body :: Permissions.letters node.mode, Text.numeral (nameCount m item.id)] ++
    (if g.has "g" then [] else [user]) ++ (if g.has "o" ∨ g.has "G" then [] else [user]) ++ [size]

def time (g : Given) (m : Machine) (item : Item) : Octets :=
  let modified := (m.node item.id).modified
  let isRecent := decide (m.now - 15778476 < modified) && decide (modified ≤ m.now)
  match if g.has "full-time" then some "full-iso" else (g.value? "time-style").map String.ofList with
  | some "full-iso" => momentText "%Y-%m-%d %H:%M:%S.000000000 +0000" modified
  | some "long-iso" => momentText "%Y-%m-%d %H:%M" modified
  | some "iso" => momentText (if isRecent then "%m-%d %H:%M" else "%Y-%m-%d ") modified
  | some style =>
    if style.startsWith "+" then
      (Calendar.timeText? (style.toList.drop 1) (Calendar.LocalTime.ofUnix? modified 0 0)).getD []
    else momentText (if isRecent then "%b %e %H:%M" else "%b %e  %Y") modified
  | none => momentText (if isRecent then "%b %e %H:%M" else "%b %e  %Y") modified

/-- The greatest length of the cells in each column. -/
def widths (rows : List (List Octets)) : List Nat :=
  (List.range ((rows.map (·.length)).foldl max 0)).map fun n ↦
    (rows.map fun row ↦ (row.getD n []).length).foldl max 0

def longLines (g : Given) (m : Machine) (items : List Item) : List Octets :=
  let rows := items.map (cells g m)
  let columns := widths rows
  let isLeft (n : Nat) : Bool := n == 0 || (2 ≤ n && n + 1 < columns.length)
  (items.zip rows).map fun (item, row) ↦
    let padded := ((List.range row.length).zip row).map fun (n, cell) ↦
      let width := columns.getD n 0
      if isLeft n then cell ++ List.replicate (width - cell.length) ' ' else Text.padStart width ' ' cell
    let arrow := match m.body item.id with
      | .link target => " -> ".toList ++ shownName g target
      | _ => []
    Octets.spaced (padded ++ [time g m item]) ++ ' ' ::
      (if arrow = [] then markedName g m item else shownName g item.name ++ arrow)

def indent : (limit : Nat) → (column target : Nat) → Octets
  | 0, _, _ => []
  | limit + 1, column, target =>
    if target ≤ column then []
    else if column / 8 < target / 8 ∧ column + 1 ≠ target then
      '\t' :: indent limit (column + 8 - column % 8) target
    else ' ' :: indent limit (column + 1) target

def columnLines (width : Nat) (across : Bool) (names : List Octets) : List Octets :=
  let count := names.length
  let place (columns rows n : Nat) : Nat := if across then n % columns else n / rows
  let layout (columns : Nat) : Nat × List Nat :=
    let rows := (count + columns - 1) / columns
    let sizes := (List.range columns).map fun column ↦
      let own := ((List.range count).zip names).filter fun (n, _) ↦ place columns rows n == column
      (own.map fun (_, name) ↦ name.length + (if column + 1 = columns then 0 else 2)).foldl max 0
    (rows, sizes)
  let fitting := ((List.range count).reverse.map (· + 1)).find? fun columns ↦
    let (rows, sizes) := layout columns
    sizes.foldl (· + ·) 0 < width && (across || (rows * (columns - 1) < count))
  let columns := fitting.getD 1
  let (rows, sizes) := layout columns
  let starts := (List.range columns).map fun n ↦ (sizes.take n).foldl (· + ·) 0
  (List.range rows).map fun row ↦
    let own := ((List.range columns).filterMap fun column ↦
      let n := if across then row * columns + column else column * rows + row
      (names[n]?).map fun name ↦ (starts.getD column 0, name))
    (own.foldl (fun (text, column) (start, name) ↦
      (text ++ indent (start + 1) column start ++ name, start + name.length)) (([] : Octets), 0)).1

def commaLines (width : Nat) (names : List Octets) : List Octets :=
  let (line, done) := names.foldl (fun (line, done) name ↦
    match line with
    | none => (some name, done)
    | some text =>
      if text.length + 2 + name.length + 1 ≤ width then (some (text ++ ", ".toList ++ name), done)
      else (some name, (text ++ [',']) :: done)) ((none : Option Octets), ([] : List Octets))
  (done.reverse ++ line.toList)

def lines (g : Given) (m : Machine) (items : List Item) : List Octets :=
  let width := ((g.value? "w").bind Text.natural?).getD 80
  let names := items.map fun item ↦
    (if g.has "i" then Text.numeral (1000 + item.id) ++ [' '] else []) ++
      (if g.has "s" then Text.numeral (blocks m item.id / 2) ++ [' '] else []) ++ markedName g m item
  match form g with
  | .single => names
  | .long => longLines g m items
  | .columns across => columnLines width across names
  | .commas => commaLines width names

def contents (g : Given) (m : Machine) (id : Nat) : List Item :=
  let showsAll := g.last? ["a", "A", "f"] == some "a" || g.has "f"
  let all := (m.entries id).map fun (name, node) ↦ ({ name, id := node } : Item)
  let parent := ((m.directory? id).map (·.1)).getD id
  let dots : List Item := [{ name := ['.'], id }, { name := ['.', '.'], id := parent }]
  let kept := all.filter fun item ↦
    (showsAll || g.has "A" || item.name.head? != some '.') &&
      !(g.has "B" && item.name.getLast? == some '~')
  ordered g m (if showsAll then dots ++ kept else kept)

def directory (g : Given) (m : Machine) (title : Bool) : (limit : Nat) → (path : Octets) → (id : Nat) → Octets
  | 0, _, _ => []
  | limit + 1, path, id =>
    let items := contents g m id
    let head := if title then Quoting.needed path ++ ":\n".toList else []
    let total := if form g = .long ∨ g.has "s" then
        "total ".toList ++ Text.numeral ((items.foldl (fun total item ↦ total + blocks m item.id) 0) / 2) ++ ['\n']
      else []
    let below := if !g.has "R" then [] else
      items.flatMap fun item ↦
        if m.isDirectory item.id ∧ item.name ≠ ['.'] ∧ item.name ≠ ['.', '.'] then
          '\n' :: directory g m true limit (Path.join path item.name) item.id
        else []
    head ++ total ++ Octets.ended '\n' (lines g m items) ++ below

end Ls

def ls : Program := fun name arguments ↦ do
  let given ← Job.understand Ls.usage name arguments
  let p ← get
  let m := p.machine
  let words := if given.words = [] then [['.']] else given.words
  let isLong := Ls.form given = .long
  let mut isWell := true
  let mut found : List Ls.Item := []
  for word in words do
    let follows := given.has "L" || given.has "H" || !(isLong || given.has "d" || given.has "F")
    let node : Except SystemError Nat := match p.node? word follows with
      | .ok id => .ok id
      | .error .missing => if given.has "L" then .error .missing else p.node? word false
      | .error cause => .error cause
    match node with
    | .ok id => found := found ++ [{ name := word, id }]
    | .error cause =>
      Job.complain name (Job.refusal ("cannot access ".toList ++ Quoting.always word) cause)
      isWell := false
  let isListed (item : Ls.Item) : Bool := m.isDirectory item.id && !given.has "d"
  let files := Ls.ordered given m (found.filter (!isListed ·))
  let directories := Ls.ordered given m (found.filter isListed)
  let titles := given.has "R" || decide (1 < words.length)
  if files ≠ [] then Job.put name (Octets.ended '\n' (Ls.lines given m files)) 2
  let texts := directories.map fun item ↦ Ls.directory given m titles m.nodes.size item.name item.id
  if files ≠ [] ∧ directories ≠ [] then Job.put name ['\n'] 2
  Job.put name (['\n'].intercalate texts) 2
  if !isWell then Job.exit 2

/-! ## What is known about files -/

namespace Stat

def figure (m : Machine) (path : Octets) (id : Nat) (letter : Char) : Octets :=
  let node := m.node id
  match letter with
  | 'n' => path
  | 'N' =>
    match node.body with
    | .link target => Quoting.always path ++ " -> ".toList ++ Quoting.always target
    | _ => Quoting.always path
  | 's' => Text.numeral (m.size id)
  | 'F' => (Kind.description node.body).toList
  | 'a' => Nat.toDigits 8 node.mode
  | 'A' => Kind.letter node.body :: Permissions.letters node.mode
  | 'u' => ['0']
  | 'U' => "root".toList
  | 'g' => ['0']
  | 'G' => "root".toList
  | 'h' => Text.numeral (nameCount m id)
  | 'f' => Nat.toDigits 16 (Kind.bits node.body + node.mode)
  | 'b' => Text.numeral (blocks m id)
  | 'B' => "512".toList
  | 'o' => "4096".toList
  | 'i' => Text.numeral (1000 + id)
  | 'd' => "65024".toList
  | 'D' => "fe00".toList
  | 'm' => ['/']
  | 't' => ['0']
  | 'T' => ['0']
  | 'w' => ['-']
  | 'W' => ['0']
  | c =>
    if "xyz".toList.contains c then momentText "%Y-%m-%d %H:%M:%S.000000000 +0000" node.modified
    else if "XYZ".toList.contains c then Octets.ofInt node.modified
    else ['?']

/-- A text by a format; escapes are resolved if that is asked for. -/
def formatted (m : Machine) (path : Octets) (id : Nat) (escapes : Bool) : (limit : Nat) → Octets → Octets
  | 0, _ => []
  | _ + 1, [] => []
  | limit + 1, '%' :: rest =>
    let flags := rest.takeWhile fun c ↦ "-0+ #'".toList.contains c
    let digits := (rest.drop flags.length).takeWhile Char.isDigit
    match rest.drop (flags.length + digits.length) with
    | '%' :: more => '%' :: formatted m path id escapes limit more
    | letter :: more =>
      let text := figure m path id letter
      let width := Text.digitsValue digits
      let shown := if flags.contains '-' then text ++ List.replicate (width - text.length) ' '
        else Text.padStart width (if flags.contains '0' then '0' else ' ') text
      shown ++ formatted m path id escapes limit more
    | [] => ['%']
  | limit + 1, '\\' :: c :: rest =>
    if escapes then
      match (if c = '"' then some '"' else Text.namedEscape c) with
      | some d => d :: formatted m path id escapes limit rest
      | none => '\\' :: c :: formatted m path id escapes limit rest
    else '\\' :: formatted m path id escapes limit (c :: rest)
  | limit + 1, c :: rest => c :: formatted m path id escapes limit rest

def usual : String :=
  "  File: %N\n  Size: %-10s\tBlocks: %-10b IO Block: %-6o %F\n" ++
    "Device: 254,0\tInode: %-11i Links: %h\n" ++
    "Access: (%04a/%A)  Uid: (%5u/%8U)   Gid: (%5g/%8G)\n" ++
    "Access: %x\nModify: %y\nChange: %z\n Birth: %w\n"

end Stat

/-- Shows what is known about files. -/
def stat : Program := fun name arguments ↦ do
  let usage : Usage :=
    { choices :=
        [{ key := "c", names := ["format"], demand := .value }, { key := "f", names := ["file-system"] },
         { key := "L", names := ["dereference"] }, { key := "printf", demand := .value },
         { key := "t", names := ["terse"] }, { key := "cached", demand := .value }] }
  let given ← Job.understand usage name arguments
  if given.words = [] then Job.missingOperand name
  else
    let isWell ← allWell given.words fun path ↦ do
      let p ← get
      match p.node? path (given.has "L") with
      | .error cause =>
        Job.complain name (Job.refusal ("cannot statx ".toList ++ Quoting.always path) cause)
        pure false
      | .ok id =>
        let text := match given.value? "printf", given.value? "c" with
          | some format, _ => Stat.formatted p.machine path id true (format.length + 1) format
          | none, some format => Stat.formatted p.machine path id false (format.length + 1) format ++ ['\n']
          | none, none =>
            let format := if given.has "t" then "%n %s %b %f %u %g %D %i %h %t %T %X %Y %Z %W %o\n".toList
              else Stat.usual.toList
            Stat.formatted p.machine path id false (format.length + 1) format
        Job.put name text
        pure true
    Job.finish isWell

/-! ## Where links lead to -/

def settled (names : List Octets) : List Octets :=
  (names.foldl (fun done name ↦
    if name = ['.'] then done else if name = ['.', '.'] then done.drop 1 else name :: done) []).reverse

def topPath (names : List Octets) : Octets := '/' :: ['/'].intercalate names

/-- The path of a place in the file tree without links. -/
def Canonical.ofPlace (m : Machine) (place : Place) : Octets :=
  match place.node? with
  | some id => if m.isDirectory id then m.pathTo id else Path.join (m.pathTo place.directory) place.name
  | none => Path.join (m.pathTo place.directory) place.name

/-- The path without links that a path stands for. The last name may be missing, or has to exist, or any
names may be missing. -/
def canonical (p : Process) (mustExist mayMiss : Bool) (path : Octets) : Except SystemError Octets :=
  match p.machine.place true p.directory path with
  | .ok place =>
    if mustExist ∧ place.node?.isNone then .error .missing else .ok (Canonical.ofPlace p.machine place)
  | .error cause =>
    if !mayMiss ∨ path = [] then .error cause
    else
      let names := Path.names path
      let start : Octets := if Path.isAbsolute path then ['/'] else ['.']
      let reach := ((List.range (names.length + 1)).reverse).findSome? fun n ↦
        let front := Path.join start (['/'].intercalate (names.take n))
        match p.machine.place true p.directory (if n = 0 then start else front) with
        | .ok place => some (Canonical.ofPlace p.machine place, n)
        | .error _ => none
      match reach with
      | some (front, n) => .ok (topPath (settled (Path.names front ++ names.drop n)))
      | none => .error cause

def relativePath (base path : Octets) : Octets :=
  let origin := Path.names base
  let target := Path.names path
  let shared := ((origin.zip target).takeWhile fun (a, b) ↦ a == b).length
  let parts := List.replicate (origin.length - shared) ['.', '.'] ++ target.drop shared
  if parts = [] then ['.'] else ['/'].intercalate parts

def readlink : Program := fun name arguments ↦ do
  let usage : Usage :=
    { choices :=
        [{ key := "f", names := ["canonicalize"] }, { key := "e", names := ["canonicalize-existing"] },
         { key := "m", names := ["canonicalize-missing"] }, { key := "n", names := ["no-newline"] },
         { key := "q", names := ["quiet"] }, { key := "s", names := ["silent"] },
         { key := "v", names := ["verbose"] }, { key := "z", names := ["zero"] }] }
  let given ← Job.understand usage name arguments
  if given.words = [] then Job.missingOperand name
  else
    let mark : Octets := if given.has "n" ∧ given.words.length = 1 then [] else
      [if given.has "z" then '\x00' else '\n']
    let isWell ← allWell given.words fun path ↦ do
      let p ← get
      let answer := match given.last? ["f", "e", "m"] with
        | some key => canonical p (key == "e") (key == "m") path
        | none => p.linkTarget? path
      match answer with
      | .ok text =>
        Job.put name (text ++ mark)
        pure true
      | .error cause =>
        if given.has "v" then Job.complainOf name path cause
        pure false
    Job.finish isWell

/-- Shows paths without links. -/
def realpath : Program := fun name arguments ↦ do
  let usage : Usage :=
    { choices :=
        [{ key := "e", names := ["canonicalize-existing"] },
         { key := "m", names := ["canonicalize-missing"] }, { key := "L", names := ["logical"] },
         { key := "P", names := ["physical"] }, { key := "q", names := ["quiet"] },
         { key := "relative-to", demand := .value }, { key := "relative-base", demand := .value },
         { key := "s", names := ["strip", "no-symlinks"] }, { key := "z", names := ["zero"] }] }
  let given ← Job.understand usage name arguments
  if given.words = [] then Job.missingOperand name
  else
    let mark := if given.has "z" then '\x00' else '\n'
    let isWell ← allWell given.words fun path ↦ do
      let p ← get
      let resolve (path : Octets) : Except SystemError Octets :=
        if given.has "s" ∧ path ≠ [] then
          let here := if Path.isAbsolute path then [] else Path.names (p.machine.pathTo p.directory)
          .ok (topPath (settled (here ++ Path.names path)))
        else canonical p (given.has "e") (given.has "m") path
      match resolve path with
      | .ok text =>
        let shown := match given.value? "relative-to" with
          | some base => match resolve base with
            | .ok origin => relativePath origin text
            | .error _ => text
          | none => text
        Job.put name (shown ++ [mark])
        pure true
      | .error cause =>
        if !given.has "q" then Job.complainOf name path cause
        pure false
    Job.finish isWell

end ProgressActions.Programs
