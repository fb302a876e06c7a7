import ProgressActions.Process.Search
import ProgressActions.Process.Tree
import ProgressActions.Programs.Basic
import ProgressActions.Programs.Sed.Parser
import ProgressActions.Programs.Sed.Substitution

/-!
# Carrying out editing scripts

Lines come from several files, which count as one unless they are separate. What is shown is collected and
written in the end; other files are written at once.
-/

namespace ProgressActions.Programs.Sed

structure Settings where
  launch : Launcher
  name : Octets
  script : Script
  /-- The place that complaints about the script at work name. -/
  place : Place
  mark : Char := '\n'
  isQuiet : Bool := false
  isSeparate : Bool := false
  /-- The ending of names for files as they were before, if files are edited where they are. -/
  suffix? : Option Octets := none
  width : Nat := 70
  isUnbuffered : Bool := false
  /-- Whether a line without another one behind it is lost. -/
  dropsLast : Bool := false

/-- Whether a command applies from a line on, and where that ends if it is known. -/
inductive RangeState where
  | inactive
  | active (stop? : Option Nat)
  deriving DecidableEq, Repr

inductive Queued where
  | text (content : Octets)
  | file (name : Octets)
  deriving DecidableEq, Repr

structure Output where
  name : Octets
  file : Nat
  lacksFeed : Bool := false

structure Line where
  text : Octets := []
  isEnded : Bool := true
  deriving DecidableEq, Repr

structure State where
  pattern : Line := {}
  hold : Line := {}
  number : Nat := 0
  /-- The file that is being read. -/
  file : Octets := ['-']
  /-- The lines of it that have not been read, with their marks. -/
  lines : List Octets := []
  /-- The files that have not been opened. -/
  files : List Octets
  /-- Whether a file is being edited where it is. -/
  isEditing : Bool := false
  isReplaced : Bool := false
  queue : List Queued := []
  ranges : Array RangeState := #[]
  last? : Option Sought := none
  /-- What is to be written to the standard output and to the file that is edited, the last piece first. -/
  shown : List Octets := []
  edited : List Octets := []
  lacksFeed : Bool := false
  outputs : List Output := []
  /-- The lines that are left of files that are read line by line. -/
  sources : List (Octets × List Octets) := []
  isWell : Bool := true

abbrev Run := StateT State Job

namespace Run

variable (c : Settings)

/-! ## Output -/

def emit (text : Octets) : Run Unit := modify fun s ↦
  if text = [] then s
  else if s.isEditing then { s with edited := text :: s.edited }
  else { s with shown := text :: s.shown }

/-- Ends the line that has been shown last, if that was not done. -/
def feed : Run Unit := do
  if (← get).lacksFeed then
    emit [c.mark]
    modify ({ · with lacksFeed := false })

def display (text : Octets) : Run Unit := do
  feed c
  emit text

def showLine (l : Line) : Run Unit := do
  feed c
  emit (if l.isEnded then l.text ++ [c.mark] else l.text)
  modify ({ · with lacksFeed := !l.isEnded })

def flush : Run Unit := do
  let text := (← get).shown.reverse.flatten
  modify ({ · with shown := [] })
  if text ≠ [] then
    match ← liftM (Process.write 1 text) with
    | .ok () => pure ()
    | .error .brokenPipe => throw (.killed .pipe)
    | .error cause =>
      let doing := if cause = .badDescriptor then "couldn't close stdout" else "couldn't flush stdout"
      liftM (Job.fail c.name (Job.refusal doing.toList cause) 4 : Job Unit)

/-- Complains, writes what was to be shown and ends. -/
def fail {α : Type} (text : Octets) (status : Nat := 4) : Run α := do
  liftM (Job.complain c.name text)
  flush c
  liftM (Job.exit status : Job α)

/-- Complains about the script at work, and ends. -/
def failBy {α : Type} (problem : Problem) : Run α :=
  fail c (c.place.description ++ ": ".toList ++ problem.message) 1

def writeLine (name : Octets) (l : Line) : Run Unit := do
  if name = "/dev/stdout".toList then
    let s ← get
    let lacksFeed := s.outputs.any fun o ↦ o.name == name && o.lacksFeed
    let text := (if lacksFeed then [c.mark] else []) ++ l.text ++ (if l.isEnded then [c.mark] else [])
    modify fun s ↦ { s with
      shown := text :: s.shown
      outputs := { name, file := 0, lacksFeed := !l.isEnded } :: s.outputs.filter (·.name != name) }
  else
    match (← get).outputs.find? (·.name == name) with
    | none => pure ()
    | some o =>
      let text := (if o.lacksFeed then [c.mark] else []) ++ l.text ++ (if l.isEnded then [c.mark] else [])
      discard (liftM (Process.writeOpen o.file text))
      modify fun s ↦ { s with
        outputs := s.outputs.map fun other ↦
          if other.name = name then { o with lacksFeed := !l.isEnded } else other }

/-- Shows what stands in the queue behind a line. -/
def showQueue : Run Unit := do
  let queue := (← get).queue.reverse
  modify ({ · with queue := [] })
  for entry in queue do
    feed c
    match entry with
    | .text content => emit content
    | .file name =>
      match ← liftM (Process.readFile name) with
      | .ok content => emit content
      | .error _ => pure ()

/-! ## Input -/

def backupName (suffix path : Octets) : Octets :=
  let base := Path.base path
  let name := if suffix.contains '*' then suffix.flatMap fun d ↦ if d = '*' then base else [d]
    else base ++ suffix
  path.take (path.length - base.length) ++ name

/-- Puts the edited content in the place of a file. -/
def finishEditing : Run Unit := do
  let s ← get
  if s.isEditing then
    let content := s.edited.reverse.flatten
    set { s with isEditing := false, edited := [], lacksFeed := false }
    let p ← liftM (get : Work Process)
    let mode := match p.node? s.file with
      | .ok id => (p.machine.node id).mode
      | .error _ => 0o644
    let suffix := c.suffix?.getD []
    let moved ← if suffix = [] then liftM (Process.removeName s.file)
      else liftM (Process.rename s.file (backupName suffix s.file))
    match moved with
    | .error cause => fail c (Job.refusal ("cannot rename ".toList ++ s.file) cause)
    | .ok () =>
      discard (liftM (Process.makeNode s.file (.file (Octets.toByteArray content)) mode))

def freshRanges : Array RangeState := c.script.commands.map fun command ↦
  if command.selection.first? = some (.line 0) then .active none else .inactive

/-- Opens files until there is one with a line that is left, and tells whether there is one. -/
def openNext : (limit : Nat) → Run Bool
  | 0 => pure false
  | limit + 1 => do
    let s ← get
    match s.files with
    | [] => pure false
    | file :: files =>
      set { s with files }
      let isInput := file == ['-'] && c.suffix?.isNone
      let found ← if isInput then liftM (Process.read 0) else liftM (Process.readFile file)
      let shown := if isInput then "stdin".toList else file
      match found with
      | .error cause =>
        if c.suffix?.isSome ∧ cause = .isDirectory then
          fail c ("couldn't edit ".toList ++ file ++ ": not a regular file".toList)
        else if isInput ∨ cause = .isDirectory then
          fail c (Job.refusal ("read error on ".toList ++ shown) cause)
        else
          liftM (Job.complain c.name (Job.refusal ("can't read ".toList ++ file) cause))
          modify ({ · with isWell := false })
          openNext limit
      | .ok content =>
        if c.isSeparate then
          finishEditing c
          if c.suffix?.isNone then feed c
          modify ({ · with number := 0, ranges := freshRanges c })
        modify fun s ↦ { s with
          file, lines := Octets.linesBy c.mark content, isEditing := c.suffix?.isSome }
        if content ≠ [] then pure true else openNext limit

def isAtEnd : Run Bool := do
  let s ← get
  if s.lines ≠ [] then pure false
  else if c.isSeparate then pure true
  else pure !(← openNext c s.files.length)

/-- Takes the next line, if there is one. The line before it stays in front if it is kept. -/
def readLine (keeps : Bool) : Run Bool := do
  showQueue c
  modify ({ · with isReplaced := false })
  let hasLine ← if (← get).lines ≠ [] then pure true else openNext c (← get).files.length
  let s ← get
  match hasLine, s.lines with
  | true, line :: lines =>
    let hasMark := line.getLast? == some c.mark
    let bare := if hasMark then line.dropLast else line
    let isEnded := hasMark || (!c.isSeparate && !s.files.isEmpty)
    set { s with
      lines, number := s.number + 1
      pattern := { text := if keeps then s.pattern.text ++ c.mark :: bare else bare, isEnded } }
    pure true
  | _, _ => pure false

/-- A line of a file that is read line by line, with its mark. -/
def sourceLine? (name : Octets) : Run (Option Octets) := do
  let lines ← match (← get).sources.lookup name with
    | some lines => pure lines
    | none =>
      match ← liftM (Process.readFile name) with
      | .ok content => pure (Octets.linesBy c.mark content)
      | .error _ => pure []
  modify fun s ↦ { s with sources := (name, lines.drop 1) :: s.sources.filter (·.1 != name) }
  pure lines.head?

/-! ## Lines -/

/-- The expression to look for, and how the pattern space is looked at. -/
def expressionOf (wanted : Sought) : Run (Regex × Regex.Reading) := do
  let s ← get
  let sought := if wanted.expression?.isSome then some wanted else s.last?
  match sought with
  | none => failBy c .noExpression
  | some found =>
    set { s with last? := some found }
    pure (found.expression?.getD .empty,
      { text := s.pattern.text.toArray, foldsCase := found.foldsCase, hasLines := found.hasLines })

def isAt : Address → Run Bool
  | .line n => do pure ((← get).number == n)
  | .every first step => do
    let n := (← get).number
    pure (first ≤ n && (n - first) % step == 0)
  | .last => isAtEnd c
  | .holding wanted => do
    let (x, r) ← expressionOf c wanted
    pure (x.isFound r)

def applies (index : Nat) (lines : Selection) : Run Bool := do
  match lines.first?, lines.stop? with
  | none, _ => pure true
  | some first, none => isAt c first
  | some first, some stop =>
    let setRange (range : RangeState) : Run Unit :=
      modify fun s ↦ { s with ranges := s.ranges.setIfInBounds index range }
    match (← get).ranges.getD index .inactive with
    | .inactive =>
      if !(← isAt c first) then pure false
      else
        let n := (← get).number
        match stop with
        | .at (.line last) => if n < last then setRange (.active none)
        | .at .last => if !(← isAtEnd c) then setRange (.active none)
        | .at _ => setRange (.active none)
        | .after count => setRange (.active (some (n + count)))
        | .multiple factor => setRange (.active (some ((n / factor + 1) * factor)))
        pure true
    | .active stop? =>
      let n := (← get).number
      match stop, stop? with
      | .at (.line last), _ =>
        if last ≤ n then setRange .inactive
        pure (n ≤ last)
      | .at address, _ =>
        if ← isAt c address then setRange .inactive
        pure true
      | _, some last =>
        if last ≤ n then setRange .inactive
        pure true
      | _, none => pure true

/-! ## Commands -/

/-- How a cycle ends: it has come to the end of the script, the pattern space is given up or kept for the
next cycle, or the work is over. -/
inductive Outcome where
  | finished
  | dropped
  | again
  | over (status : Nat)

def outputOf (command : Octets) : Run Octets := do
  let (source, sink) ← liftM (Process.openPipe : Work (Nat × Nat))
  discard (liftM (Process.inChild (Process.setDescriptor 1 sink)
    (c.launch "/bin/sh".toList ["sh".toList, "-c".toList, command])))
  match ← liftM (Process.readOpen source) with
  | .ok text => pure text
  | .error _ => pure []

/-- Runs the pattern space, and puts the output into its place. -/
def runPattern : Run Unit := do
  flush c
  let text ← outputOf c (← get).pattern.text
  let bare := if text.getLast? = some c.mark then text.dropLast else text
  modify fun s ↦ { s with pattern := { s.pattern with text := bare } }

/-- The text for a character that is shown without doubt. -/
def clear (d : Char) : Octets :=
  if d = '\\' then ['\\', '\\']
  else if ' ' ≤ d ∧ d ≤ '~' then [d]
  else Quoting.escape d

/-- A text that is shown without doubt, on lines of at most some width. -/
def listed (width : Nat) (text : Octets) : Octets :=
  let (pieces, _) := text.foldl (fun (pieces, column) d ↦
    let shown := clear d
    if 0 < width ∧ width - 1 < column + shown.length then
      (shown :: "\\\n".toList :: pieces, shown.length)
    else (shown :: pieces, column + shown.length)) (([] : List Octets), 0)
  pieces.reverse.flatten ++ "$\n".toList

def substitute (s : Substitution) : Run Unit := do
  let (x, r) ← expressionOf c s.sought
  let most := s.replacement.foldl (fun most segment ↦ max most (segment.group?.getD 0)) 0
  if x.groupCount < most then failBy c (.missingGroup most)
  match s.apply x r with
  | none => pure ()
  | some text =>
    modify fun state ↦ { state with pattern := { state.pattern with text }, isReplaced := true }
    if s.printsFirst then showLine c (← get).pattern
    if s.isRun then runPattern c
    if s.prints ∧ !s.printsFirst then showLine c (← get).pattern
    match s.output? with
    | some name => writeLine c name (← get).pattern
    | none => pure ()

def firstLine : Run Line := do
  let text := (← get).pattern.text
  let front := text.takeWhile (· != c.mark)
  pure { text := front, isEnded := true }

/-- Takes note of something to be shown behind the line. -/
def enqueue (entry : Queued) : Run Unit := modify fun s ↦ { s with queue := entry :: s.queue }

def target (label : Octets) : Nat :=
  if label = [] then c.script.commands.size
  else (c.script.labels.lookup label).getD c.script.commands.size

/-- Does what a command does, and yields where to go on or how the cycle ends. -/
def perform (index : Nat) (isInRange : Bool) : Act → Run (Nat ⊕ Outcome)
  | .nothing => on
  | .openBlock _ => on
  | .append text => do
    enqueue (.text text)
    on
  | .insert text => do
    display c text
    on
  | .change text => do
    if !isInRange then display c text
    pure (.inr .dropped)
  | .jump .always label => pure (.inl (target c label))
  | .jump when label => do
    let wasReplaced := (← get).isReplaced
    modify ({ · with isReplaced := false })
    pure (.inl (if wasReplaced == (when == .replaced) then target c label else index + 1))
  | .delete => pure (.inr .dropped)
  | .deleteFirst => do
    let p := (← get).pattern
    if p.text.contains c.mark then
      let rest := p.text.drop ((p.text.takeWhile (· != c.mark)).length + 1)
      modify ({ · with pattern := { p with text := rest } })
      pure (.inr .again)
    else pure (.inr .dropped)
  | .run [] => do
    runPattern c
    on
  | .run command => do
    flush c
    display c (← outputOf c command)
    on
  | .showFile => do
    display c ((← get).file ++ [c.mark])
    on
  | .get => do
    modify fun s ↦ { s with pattern := s.hold }
    on
  | .getMore => do
    modify fun s ↦ { s with pattern := joined s.pattern s.hold }
    on
  | .hold => do
    modify fun s ↦ { s with hold := s.pattern }
    on
  | .holdMore => do
    modify fun s ↦ { s with hold := joined s.hold s.pattern }
    on
  | .exchange => do
    modify fun s ↦ { s with pattern := s.hold, hold := s.pattern }
    on
  | .list width? => do
    display c (listed (width?.getD c.width) (← get).pattern.text)
    on
  | .next => do
    if ← isAtEnd c then pure (.inr (if c.dropsLast then .dropped else .finished))
    else
      if !c.isQuiet then showLine c (← get).pattern
      if ← readLine c false then on else pure (.inr .dropped)
  | .nextMore => do
    if ← isAtEnd c then pure (.inr (if c.dropsLast then .dropped else .finished))
    else if ← readLine c true then on
    else pure (.inr .finished)
  | .print => do
    showLine c (← get).pattern
    on
  | .printFirst => do
    showLine c (← firstLine c)
    on
  | .quit status => do
    if !c.isQuiet then showLine c (← get).pattern
    feed c
    showQueue c
    pure (.inr (.over status))
  | .quitSilently status => pure (.inr (.over status))
  | .readFile name => do
    enqueue (.file name)
    on
  | .readLine name => do
    match ← sourceLine? c name with
    | some line => enqueue (.text line)
    | none => pure ()
    on
  | .write name => do
    writeLine c name (← get).pattern
    on
  | .writeFirst name => do
    writeLine c name (← firstLine c)
    on
  | .substitute s => do
    substitute c s
    on
  | .translate map => do
    modify fun s ↦
      { s with pattern := { s.pattern with text := s.pattern.text.map fun d ↦ (map.lookup d).getD d } }
    on
  | .showNumber => do
    display c (Text.numeral (← get).number ++ ['\n'])
    on
  | .clear => do
    modify fun s ↦ { s with pattern := { s.pattern with text := [] } }
    on
  | .unsupported letter => fail c ("INTERNAL ERROR: Bad cmd ".toList ++ [letter])
where
  on : Run (Nat ⊕ Outcome) := pure (.inl (index + 1))
  joined (front back : Line) : Line :=
    { text := front.text ++ c.mark :: back.text, isEnded := back.isEnded }

def commands : (limit : Nat) → (index : Nat) → Run Outcome
  | 0, _ => pure .finished
  | limit + 1, index => do
    match c.script.commands[index]? with
    | none => pure .finished
    | some command =>
      let isChosen := (← applies c index command.selection) != command.selection.isNegated
      match command.act, isChosen with
      | .openBlock stop, false => commands limit stop
      | _, false => commands limit (index + 1)
      | act, true =>
        let isInRange : Bool := match (← get).ranges.getD index .inactive with
          | .active _ => true
          | .inactive => false
        match ← perform c index isInRange act with
        | .inl next => commands limit next
        | .inr outcome => pure outcome

/-- Gives back what has not been read of the standard input. -/
def giveBack : Run Unit := do
  let s ← get
  let p ← liftM (get : Work Process)
  let isFile : Bool := match p.openOf? 0 with
    | some file => match p.machine.body (p.machine.opens.getD file default).node with
      | .file _ => true
      | _ => false
    | none => false
  if s.file = ['-'] ∧ (isFile ∨ c.isUnbuffered) then
    liftM (Process.unread 0 (s.lines.foldl (fun total line ↦ total + line.length) 0) : Work Unit)

/-- Works on line after line, and yields the status in the end. -/
def cycles : (limit : Nat) → (reads : Bool) → Run Nat
  | 0, _ => pure 0
  | limit + 1, reads => do
    if reads then
      if !(← readLine c false) then
        return if (← get).isWell then 0 else 2
    match ← commands c 1000000000 0 with
    | .finished =>
      if !c.isQuiet then showLine c (← get).pattern
      cycles limit true
    | .dropped => cycles limit true
    | .again => cycles limit false
    | .over status =>
      giveBack c
      pure (if status = 0 ∧ !(← get).isWell then 2 else status)

def openOutputs : List Octets → Run Unit
  | [] => pure ()
  | name :: rest => do
    let file? : Option Nat ← if name = "/dev/stdout".toList then pure none
      else if name = "/dev/stderr".toList then pure ((← liftM (get : Work Process)).openOf? 2)
      else
        match ← liftM (Process.openFile name .replacing) with
        | .ok file => pure (some file)
        | .error cause => fail c (Job.refusal ("couldn't open file ".toList ++ name) cause)
    match file? with
    | some file => modify fun s ↦ { s with outputs := { name, file } :: s.outputs }
    | none => pure ()
    openOutputs rest

/-- Carries out a script, and ends. -/
def all : Run Unit := do
  openOutputs c c.script.outputs
  modify ({ · with ranges := freshRanges c })
  let status ← cycles c 1000000000 true
  finishEditing c
  flush c
  liftM (Job.exit status : Job Unit)

end Run

end ProgressActions.Programs.Sed
