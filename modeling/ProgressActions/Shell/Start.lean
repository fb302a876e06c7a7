import ProgressActions.Shell.Run

/-!
# Starting a shell

A shell is a program: its words hold options, a text or the path of a script, and parameters. Without a
text and without a script it reads its input.
-/

namespace ProgressActions.Shell

/-- The variables that a shell knows from the beginning, apart from those of its environment. -/
def firstVariables : List Variable :=
  [{ name := "IFS".toList, value := some [' ', '\t', '\n'], isKept := true },
   { name := "MAIL".toList, isKept := true },
   { name := "MAILPATH".toList, isKept := true },
   { name := "PATH".toList, value := some Search.usualPath, isKept := true },
   { name := "PS1".toList, value := some "# ".toList, isKept := true },
   { name := "PS2".toList, value := some "> ".toList, isKept := true },
   { name := "PS4".toList, value := some "+ ".toList, isKept := true },
   { name := "OPTIND".toList, value := some ['1'], isKept := true }]

def State.initial (p : Process) (name : Octets) : State :=
  let base : State := { process := p, name, bindings := firstVariables, rootId := p.id, line := 0 }
  let imported := p.environment.foldl (fun s (name, value) ↦
    if isVariableName name then
      let old := (s.binding? name).getD { name }
      s.putVariable { old with value := some value, isExported := true }
    else s) base
  let isFixed : Octets → Bool := fun name ↦ name == "IFS".toList || name == "OPTIND".toList
  let settled := (firstVariables.filter (isFixed ·.name)).foldl (fun s v ↦
    s.putVariable { v with isExported := ((s.binding? v.name).map (·.isExported)).getD false }) imported
  let withParent := settled.putVariable
    { name := "PPID".toList
      value := some (Text.numeral p.parent)
      isExported := ((settled.binding? "PPID".toList).map (·.isExported)).getD false }
  let physical := p.machine.pathTo p.directory
  let directory := match withParent.lookup "PWD".toList with
    | some path =>
      if Path.isAbsolute path ∧ (p.node? path).toOption = some p.directory then path else physical
    | none => physical
  { withParent.putVariable { name := "PWD".toList, value := some directory, isExported := true } with
    directory }

structure Assignment where
  /-- Whether a text is given. -/
  hasText : Bool := false
  words : List Octets

/-- Switches options by the letters of a word, one of which announces a text. -/
def switchFirst (on : Bool) : Octets → Assignment → Act Assignment
  | [], a => pure a
  | 'c' :: rest, a => switchFirst on rest { a with hasText := true }
  | 'l' :: rest, a => switchFirst on rest a
  | 'o' :: rest, a => do
    Builtin.switchNamed a.words.head? on
    switchFirst on rest { a with words := a.words.drop 1 }
  | letter :: rest, a => do
    Builtin.switchLetter letter on
    switchFirst on rest a

def readOptions : (limit : Nat) → Assignment → Act Assignment
  | 0, a => pure a
  | limit + 1, a => do
    match a.words with
    | ['-'] :: rest => pure { a with words := rest }
    | ['-', '-'] :: rest => pure { a with words := rest }
    | ('-' :: letters) :: rest => readOptions limit (← switchFirst true letters { a with words := rest })
    | ('+' :: letters) :: rest => readOptions limit (← switchFirst false letters { a with words := rest })
    | _ => pure a

def readAll (descriptor : Nat) : Act Octets := do
  let content ← Act.work (Process.read descriptor)
  pure (content.toOption.getD [])

def runWords (v : Services) (words : List Octets) : Act Unit := do
  let a ← readOptions (words.length + 1) { words }
  let setName : List Octets → Act Unit := fun rest ↦
    match rest with
    | [] => pure ()
    | name :: positional => modify ({ · with name, positional })
  if a.hasText then
    match a.words with
    | [] => Act.fail "-c requires an argument".toList
    | text :: rest =>
      setName rest
      let isOpen ← Act.hasOption 's'
      modify ({ · with line := 1 })
      discard (v.evaluate { isLast := !isOpen } text)
      if isOpen then discard (Act.runText v {} true (← readAll 0))
  else
    let reads ← if a.words = [] then pure true else Act.hasOption 's'
    if reads then
      Builtin.switch 's' true
      modify ({ · with positional := a.words, line := 1 })
      discard (Act.runText v {} true (← readAll 0))
    else
      let path := a.words.headD []
      match ← Act.work (Process.openFile path .reading) with
      | .error e => Act.fail (Redirection.complaint false path e)
      | .ok file =>
        setName a.words
        modify ({ · with line := 1 })
        let content ← Act.work (Process.readOpen file)
        discard (Act.runText v {} true (content.toOption.getD []))

def program (launch : Launcher) : Program := fun name words ↦ do
  let p ← get
  let v := services launch maxNesting
  let (ending, machine) := Act.runChild v (runWords v words) (State.initial p name)
  set { p with machine }
  throw ending

end ProgressActions.Shell
