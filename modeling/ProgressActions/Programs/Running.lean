import ProgressActions.Number.Floating
import ProgressActions.Process.Search
import ProgressActions.Process.Tree
import ProgressActions.Programs.Basic
import ProgressActions.Signal.Name

/-!
# Programs that run programs

`env` changes variables, `timeout` limits the time and `xargs` puts words together before another program
is run. `sleep` lets time pass.
-/

namespace ProgressActions.Programs

/-- Becomes the program that words name. If that is refused, a complaint is made with a status. -/
def become (launch : Launcher) (name : Octets) (words : List Octets) (lead : String := "") : Job Unit := do
  match ← liftM (Search.run launch words) with
  | .ok ending => throw ending
  | .error cause =>
    Job.fail name (Job.refusal (lead.toList ++ Quoting.always (words.headD [])) cause)
      (Search.refusalStatus cause)

/-! ## Variables -/

namespace Env

def usage : Usage :=
  { permutes := false
    failure := 125
    choices :=
      [{ key := "i", names := ["ignore-environment"] }, { key := "0", names := ["null"] },
       { key := "u", names := ["unset"], demand := .value },
       { key := "C", names := ["chdir"], demand := .value },
       { key := "S", names := ["split-string"], demand := .value },
       { key := "v", names := ["debug"] }] }

def set (bindings : Environment) (key value : Octets) : Environment :=
  if (bindings.lookup key).isSome then
    bindings.map fun v ↦ if v.1 = key then (key, value) else v
  else bindings ++ [(key, value)]

/-- The words in a text, parted by blanks; quotation marks keep blanks. -/
def split : (limit : Nat) → (quote : Option Char) → (word : Option Octets) → Octets → List Octets
  | 0, _, _, _ => []
  | _ + 1, _, word, [] => (word.map (·.reverse)).toList
  | limit + 1, quote, word, c :: rest =>
    let grown (d : Char) : Option Octets := some (d :: word.getD [])
    match quote with
    | some mark =>
      if c = mark then split limit none (some (word.getD [])) rest
      else
        match c, rest with
        | '\\', d :: more =>
          if mark = '"' ∨ d = '\'' ∨ d = '\\' then split limit quote (grown d) more
          else split limit quote (some (d :: '\\' :: word.getD [])) more
        | _, _ => split limit quote (grown c) rest
    | none =>
      if c = ' ' ∨ c = '\t' ∨ c = '\n' then
        (word.map (·.reverse)).toList ++ split limit none none rest
      else if c = '\'' ∨ c = '"' then split limit (some c) (some (word.getD [])) rest
      else
        match c, rest with
        | '\\', d :: more => split limit none (grown d) more
        | _, _ => split limit none (grown c) rest

/-- Words in which the texts of an option have been parted into words. -/
def unfolded : List Octets → List Octets
  | ['-', 'S'] :: text :: rest => split (text.length + 1) none none text ++ rest
  | word :: rest =>
    if "-S".toList.isPrefixOf word then
      let text := word.drop 2
      split (text.length + 1) none none text ++ rest
    else word :: (if word.head? = some '-' then unfolded rest else rest)
  | [] => []

end Env

/-- Shows variables, or runs a program with others. -/
def env (launch : Launcher) : Program := fun name arguments ↦ do
  let given ← Job.understand Env.usage name (Env.unfolded arguments)
  let (isBare, words) := match given.words with
    | ['-'] :: rest => (true, rest)
    | words => (given.has "i", words)
  let assignments := words.takeWhile (·.contains '=')
  let command := words.drop assignments.length
  if given.has "0" ∧ command ≠ [] then
    Job.misused name "cannot specify --null (-0) with command".toList 125
  modify fun p ↦
    let start := if isBare then [] else p.environment
    let kept := start.filter fun v ↦ !(given.values "u").contains v.1
    let environment := assignments.foldl (fun bindings word ↦
      let key := word.takeWhile (· != '=')
      Env.set bindings key (word.drop (key.length + 1))) kept
    { p with environment }
  match given.value? "C" with
  | none => pure ()
  | some path =>
    match ← liftM (Process.enter path) with
    | .ok () => pure ()
    | .error cause =>
      Job.fail name (Job.refusal ("cannot change directory to ".toList ++ Quoting.always path) cause) 125
  if command = [] then
    let mark := if given.has "0" then '\x00' else '\n'
    let p ← get
    Job.put name (Octets.ended mark (p.environment.map fun (key, value) ↦ key ++ '=' :: value))
  else become launch name command

/-! ## Time -/

/-- The length of time that a text spells, in seconds. -/
def seconds? (text : Octets) : Option Rat :=
  match Number.Floating.leading? .double text with
  | some (.finite false q, rest) =>
    match rest with
    | [] => some q
    | ['s'] => some q
    | ['m'] => some (60 * q)
    | ['h'] => some (3600 * q)
    | ['d'] => some (86400 * q)
    | _ => none
  | some (.infinite false, []) => some 1000000000
  | _ => none

/-- Lets time pass. When the time of the process is over, it is ended. -/
def pass (length : Rat) : Job Unit := do
  let m := (← get).machine
  let moment := m.slept + length
  let stop := m.deadline.filter (· ≤ moment)
  let slept := stop.getD moment
  let whole : Int := slept.floor - m.slept.floor
  modify fun p ↦ { p with machine := { p.machine with slept, now := p.machine.now + whole } }
  if stop.isSome then throw (.killed .term)

def sleep : Program := fun name arguments ↦ do
  let given ← Job.understand { choices := [] } name arguments
  if given.words = [] then Job.missingOperand name
  else
    let lengths := given.words.map seconds?
    let wrong := (given.words.zip lengths).filter fun (_, length) ↦ length.isNone
    for (word, _) in wrong do
      Job.complain name ("invalid time interval ".toList ++ Quoting.plain word)
    if wrong ≠ [] then
      Job.printError (Job.hint name)
      Job.exit 1
    else pass ((lengths.filterMap id).foldl (· + ·) 0)

namespace Timeout

def usage : Usage :=
  { permutes := false
    failure := 125
    choices :=
      [{ key := "k", names := ["kill-after"], demand := .value },
       { key := "s", names := ["signal"], demand := .value }, { key := "v", names := ["verbose"] },
       { key := "foreground" }, { key := "preserve-status" }] }

def signal? (text : Octets) : Option Signal :=
  match Text.natural? text with
  | some n => Signal.ofNumber? n
  | none =>
    let name := text.map Char.toUpper
    Signal.all.find? fun s ↦ s.shortName.toList == name || s.fullName == name

end Timeout

/-- Runs a program for a limited time. -/
def timeout (launch : Launcher) : Program := fun name arguments ↦ do
  let given ← Job.understand Timeout.usage name arguments
  let interval (text : Octets) : Job Rat :=
    match seconds? text with
    | some q => pure q
    | none => Job.misused name ("invalid time interval ".toList ++ Quoting.plain text) 125
  match given.words with
  | length :: command :: rest =>
    let signal ← match given.value? "s" with
      | none => pure Signal.term
      | some text =>
        match Timeout.signal? text with
        | some signal => pure signal
        | none => Job.misused name (Quoting.plain text ++ ": invalid signal".toList) 125
    let limit ← interval length
    let before := (← get).machine
    let moment := before.slept + limit
    let isFirst := limit ≠ 0 ∧ before.deadline.all (moment < ·)
    let deadline := if isFirst then some moment else before.deadline
    let outcome ← liftM (Process.inChild (fun p ↦ { p with machine := { p.machine with deadline } })
      (Search.run launch (command :: rest)))
    let isOver := isFirst && decide (moment ≤ (← get).machine.slept)
    modify fun p ↦ { p with machine := { p.machine with deadline := before.deadline } }
    match outcome with
    | .error cause =>
      Job.fail name (Job.refusal ("failed to run command ".toList ++ Quoting.always command) cause)
        (Search.refusalStatus cause)
    | .ok ending =>
      if isOver then
        if given.has "v" then
          Job.complain name ("sending signal ".toList ++ signal.shortName.toList ++ " to command ".toList ++
            Quoting.always command)
        if signal = .kill then throw (.killed .kill)
        else if given.has "preserve-status" then
          Job.exit (match ending with
            | .killed _ => 128 + signal.number
            | .exited status => status)
        else Job.exit 124
      else throw ending
  | _ =>
    Job.printError (Job.hint name)
    Job.exit 125

/-! ## Other circumstances -/

/-- Runs a program that a hangup does not end. -/
def nohup (launch : Launcher) : Program := fun name arguments ↦ do
  let words := if arguments.head? = some "--".toList then arguments.drop 1 else arguments
  if words = [] then Job.missingOperand name [] 125
  else
    modify fun p ↦ { p with ignored := .hup :: p.ignored }
    become launch name words "failed to run command "

/-- Runs a program with another urgency, or shows the one at hand. -/
def nice (launch : Launcher) : Program := fun name arguments ↦ do
  let modern := match arguments with
    | ('-' :: c :: rest) :: others =>
      if c.isDigit then "-n".toList :: (c :: rest) :: others else arguments
    | _ => arguments
  let usage : Usage :=
    { permutes := false, failure := 125,
      choices := [{ key := "n", names := ["adjustment"], demand := .value }] }
  let given ← Job.understand usage name modern
  let adjustment ← match given.value? "n" with
    | none => pure 10
    | some text =>
      let digits := match text with
        | '-' :: rest => rest
        | '+' :: rest => rest
        | _ => text
      if Text.isNumeral digits then pure (if text.head? = some '-' then 0 else min 19 (Text.digitsValue digits))
      else Job.fail name ("invalid adjustment ".toList ++ Quoting.plain text) 125
  let current := (← get).niceness
  if given.words = [] then Job.put name (Text.numeral current ++ ['\n'])
  else
    modify fun p ↦ { p with niceness := min 19 (current + adjustment) }
    become launch name given.words

/-- Runs a program whose streams are buffered in another way. -/
def stdbuf (launch : Launcher) : Program := fun name arguments ↦ do
  let usage : Usage :=
    { permutes := false
      failure := 125
      choices :=
        [{ key := "i", names := ["input"], demand := .value },
         { key := "o", names := ["output"], demand := .value },
         { key := "e", names := ["error"], demand := .value }] }
  let given ← Job.understand usage name arguments
  if given.words = [] then Job.missingOperand name [] 125
  else if given.options = [] then
    Job.misused name "you must specify a buffering mode option".toList 125
  else become launch name given.words "failed to run command "

/-! ## Words from the input -/

namespace Xargs

def usage : Usage :=
  { permutes := false
    choices :=
      [{ key := "0", names := ["null"] }, { key := "a", names := ["arg-file"], demand := .value },
       { key := "d", names := ["delimiter"], demand := .value }, { key := "E", demand := .value },
       { key := "e", names := ["eof"], demand := .attached }, { key := "I", demand := .value },
       { key := "i", names := ["replace"], demand := .attached }, { key := "L", demand := .value },
       { key := "l", names := ["max-lines"], demand := .attached },
       { key := "n", names := ["max-args"], demand := .value }, { key := "o", names := ["open-tty"] },
       { key := "P", names := ["max-procs"], demand := .value }, { key := "p", names := ["interactive"] },
       { key := "r", names := ["no-run-if-empty"] }, { key := "s", names := ["max-chars"], demand := .value },
       { key := "t", names := ["verbose"] }, { key := "x", names := ["exit"] }] }

/-- A word of the input, and whether the line ends behind it. -/
structure Item where
  text : Octets
  endsLine : Bool := false
  deriving DecidableEq, Repr

def isBlank (c : Char) : Bool := c == ' ' || c == '\t'

/-- The words of a text; quotation marks and backslashes keep blanks. The mark of a quotation that is not
closed is the error. -/
def items (wholeLines : Bool) : (limit : Nat) → (quote : Option Char) → (word : Option Octets) → Octets →
    Except Char (List Item)
  | 0, _, _, _ => .ok []
  | _ + 1, quote, word, [] =>
    match quote with
    | some mark => .error mark
    | none => .ok ((word.map fun text ↦ { text := text.reverse, endsLine := true }).toList)
  | limit + 1, quote, word, c :: rest =>
    let grown (d : Char) : Option Octets := some (d :: word.getD [])
    match quote with
    | some mark =>
      if c = mark then items wholeLines limit none (some (word.getD [])) rest
      else if c = '\n' then .error mark
      else items wholeLines limit quote (grown c) rest
    | none =>
      if c = '\n' then do
        let later ← items wholeLines limit none none rest
        match word with
        | some text => pure ({ text := text.reverse, endsLine := true } :: later)
        | none => pure later
      else if isBlank c ∧ (!wholeLines ∨ word.isNone) then do
        let continues := rest.head? == some '\n'
        let after := if continues then rest.dropWhile fun d ↦ isBlank d || d == '\n' else rest
        let later ← items wholeLines limit none none after
        match word with
        | some text => pure ({ text := text.reverse } :: later)
        | none => pure later
      else if c = '\'' ∨ c = '"' then items wholeLines limit (some c) (some (word.getD [])) rest
      else
        match c, rest with
        | '\\', d :: more => items wholeLines limit none (grown d) more
        | _, _ => items wholeLines limit none (grown c) rest

/-- Rows of as many words as are wanted: so many words, or the words of so many lines. -/
def rows (words lines : Option Nat) (all : List Item) : List (List Octets) :=
  let close (row : List Octets) (done : List (List Octets)) : List (List Octets) :=
    if row = [] then done else row.reverse :: done
  let (row, _, done) := all.foldl (fun (row, count, done) item ↦
    let longer := item.text :: row
    let lineCount := if item.endsLine then count + 1 else count
    let isFull := words.any (· ≤ longer.length) || lines.any (· ≤ lineCount)
    if isFull then ([], 0, longer.reverse :: done) else (longer, lineCount, done))
    (([] : List Octets), 0, ([] : List (List Octets)))
  (close row done).reverse

def replaced (part text : Octets) : (limit : Nat) → Octets → Octets
  | 0, rest => rest
  | _ + 1, [] => []
  | limit + 1, c :: rest =>
    if part ≠ [] ∧ part.isPrefixOf (c :: rest) then
      text ++ replaced part text limit ((c :: rest).drop part.length)
    else c :: replaced part text limit rest

def delimiter (text : Octets) : Char :=
  match text with
  | ['\\', 'n'] => '\n'
  | ['\\', 't'] => '\t'
  | ['\\', '0'] => '\x00'
  | '\\' :: c :: _ => c
  | c :: _ => c
  | [] => '\x00'

def runAll (launch : Launcher) (name : Octets) (isVerbose : Bool) : (status : Nat) → List (List Octets) →
    Job Nat
  | status, [] => pure status
  | status, words :: rest => do
    if isVerbose then Job.printError (Octets.spaced (words.map Quoting.needed) ++ ['\n'])
    let command := words.headD []
    let work : Work (Except SystemError Ending) := do
      match ← Process.openFile "/dev/null".toList .reading with
      | .ok file => modify (Process.setDescriptor 0 file)
      | .error _ => pure ()
      Search.run launch words
    match ← liftM (Process.inChild id work) with
    | .error cause =>
      Job.complain name (Job.refusal command cause)
      pure (Search.refusalStatus cause)
    | .ok (.killed signal) =>
      Job.complain name (command ++ ": terminated by signal ".toList ++ Text.numeral signal.number)
      pure 125
    | .ok (.exited 255) =>
      Job.complain name (command ++ ": exited with status 255; aborting".toList)
      pure 124
    | .ok (.exited code) => runAll launch name isVerbose (if code = 0 then status else 123) rest

end Xargs

/-- Runs a command with words from the input. -/
def xargs (launch : Launcher) : Program := fun name arguments ↦ do
  let given ← Job.understand Xargs.usage name arguments
  let number (key : String) : Job (Option Nat) := do
    match given.value? key with
    | none => pure none
    | some text =>
      match Text.natural? text with
      | some 0 =>
        Job.misused name ("value 0 for -".toList ++ key.toList ++ " option should be >= 1".toList)
      | some n => pure (some n)
      | none =>
        Job.misused name ("invalid number \"".toList ++ text ++ "\" for -".toList ++ key.toList ++ " option".toList)
  let words ← number "n"
  let lines ← number "L"
  let perLine := lines.or (if given.has "l" then some (((given.value? "l").bind Text.natural?).getD 1) else none)
  let marker : Option Octets := match given.last? ["I", "i"] with
    | some "I" => given.value? "I"
    | some _ => some ((given.value? "i").getD "\x7b\x7d".toList)
    | none => none
  let content ← match given.value? "a" with
    | none => do pure (((← Job.input ['-']).toOption).getD [])
    | some file =>
      match ← Job.input file with
      | .ok text => pure text
      | .error cause => Job.fail name (Job.refusal ("Cannot open input file ".toList ++ Quoting.plain file) cause)
  let items ← match given.last? ["0", "d"] with
    | some key =>
      let mark := if key = "0" then '\x00' else Xargs.delimiter ((given.value? "d").getD [])
      pure ((Octets.records mark content).map fun text ↦ ({ text, endsLine := true } : Xargs.Item))
    | none =>
      match Xargs.items marker.isSome (content.length + 2) none none content with
      | .ok items => pure items
      | .error mark =>
        let kind := if mark = '"' then "double" else "single"
        Job.fail name ("unmatched ".toList ++ kind.toList ++
          " quote; by default quotes are special to xargs unless you use the -0 option".toList)
  let stop := (given.value? "E").or (given.value? "e")
  let all := match stop with
    | some text => items.takeWhile fun item ↦ item.text != text
    | none => items
  let command := if given.words = [] then ["echo".toList] else given.words
  let commands : List (List Octets) := match marker with
    | some part =>
      all.map fun item ↦ command.map fun word ↦ Xargs.replaced part item.text (word.length + 1) word
    | none =>
      if all = [] then (if given.has "r" then [] else [command])
      else (Xargs.rows words perLine all).map (command ++ ·)
  let fits := match (given.value? "s").bind Text.natural? with
    | some most => commands.all fun row ↦ row.foldl (fun size word ↦ size + word.length + 1) 0 ≤ most
    | none => true
  if !fits then Job.fail name "argument list too long".toList
  let status ← Xargs.runAll launch name (given.has "t") 0 commands
  Job.exit status

/-! ## Copies of the input -/

/-- Writes the input to the output and to files. -/
def tee : Program := fun name arguments ↦ do
  let usage : Usage :=
    { choices :=
        [{ key := "a", names := ["append"] }, { key := "i", names := ["ignore-interrupts"] },
         { key := "p" }, { key := "output-error", demand := .attached }] }
  let given ← Job.understand usage name arguments
  let mut isWell := true
  let mut sinks : List (Octets × Nat) := []
  for file in given.words do
    match ← liftM (Process.openFile file (if given.has "a" then .extending else .replacing)) with
    | .ok sink => sinks := sinks ++ [(file, sink)]
    | .error cause =>
      Job.complainOf name file cause
      isWell := false
  match ← Job.input ['-'] with
  | .error cause => Job.fail name (Job.refusal "read error".toList cause)
  | .ok text =>
    match ← liftM (Process.write 1 text) with
    | .ok () => pure ()
    | .error cause =>
      Job.complain name (Job.refusal "'standard output'".toList cause)
      isWell := false
    for (file, sink) in sinks do
      match ← liftM (Process.writeOpen sink text) with
      | .ok () => pure ()
      | .error cause =>
        Job.complainOf name file cause
        isWell := false
    Job.finish isWell

end ProgressActions.Programs
