import ProgressActions.Shell.Child
import ProgressActions.Shell.Redirection

/-!
# Simple commands

The words of a simple command are expanded, its redirections established, its assignments carried out, and
then the command is looked for: a function, a command of the shell, or a program.
-/

namespace ProgressActions.Shell.Act

/-! ## Commands of the shell and functions -/

def callBuiltin (v : Services) (stance : Stance) (name : Octets) (arguments : List Octets) : Act Nat := do
  let before := (← get).commandName
  modify ({ · with commandName := some name, outputFailed := false })
  let act : Act Nat := do
    let status ←
      if name = "exec".toList then
        match ← Builtin.withoutOptions arguments with
        | [] => pure 0
        | words => do replace v (← get).path words
      else Builtin.ofName v stance name name arguments
    let s ← get
    if s.outputFailed then
      complain (s.commandName.getD name ++ ": I/O error".toList)
      pure (status ||| 1)
    else pure status
  let status ← ensuring act (modify ({ · with commandName := before, outputFailed := false }))
  setStatus status
  pure status

def maxCalls : Nat := 1000

/-- Calls a function. Its words are positional parameters while it runs. -/
def callFunction (v : Services) (stance : Stance) (line : Nat) (body : Command) (arguments : List Octets) :
    Act Nat := do
  let s ← get
  if s.calls ≥ maxCalls then
    fail ("Maximum function recursion depth (".toList ++ Text.numeral maxCalls ++ ") reached".toList)
  set { s with
    positional := arguments
    functionLine := line
    loops := 0
    calls := s.calls + 1
    optionIndex := 1
    optionPlace := none }
  let before := { s with process := { s.process with machine := {} } }
  discard (ensuring (v.run { isTested := stance.isTested } body) (modify fun last ↦
    { last with
      positional := before.positional
      functionLine := before.functionLine
      loops := before.loops
      calls := before.calls
      optionIndex := before.optionIndex
      optionPlace := before.optionPlace
      skip := match last.skip with
        | some (.function _) => none
        | other => other }))
  pure (← get).status

/-! ## Words -/

def firstFields (v : Services) : List Word → Act (List Octets × List Word)
  | [] => pure ([], [])
  | w :: rest => do
    match ← expandWord v w with
    | [] => firstFields v rest
    | fields => pure (fields, rest)

/-- A command whose words are being expanded. -/
structure Call where
  fields : List Octets
  /-- Where the name of the command is found among the fields. -/
  place : Nat := 0
  /-- The words that are not expanded yet. -/
  rest : List Word
  admitsFunctions : Bool := true
  /-- The path to look for programs on, if it is not the usual one. -/
  path? : Option Octets := none

namespace Call

def name (c : Call) : Octets := c.fields.getD c.place []

/-- The fields with those of further words, if there is none at a place yet. -/
def reach (v : Services) (c : Call) (place : Nat) : Act Call := do
  if place < c.fields.length then pure c
  else
    let (fields, rest) ← firstFields v c.rest
    pure { c with fields := c.fields ++ fields, rest }

/-- Passes over the options of the command `command` in front of the command that it is to run. If it is to
do something else, the answer is missing. -/
def passOptions (v : Services) : (limit : Nat) → (place : Nat) → (path? : Option Octets) → Call →
    Act (Call × Option Call)
  | 0, _, _, c => pure (c, none)
  | limit + 1, place, path?, c => do
    let c ← c.reach v place
    let found : Call := { c with place, admitsFunctions := false, path? }
    match c.fields[place]? with
    | none => pure (c, none)
    | some ['-', '-'] =>
      let c ← c.reach v (place + 1)
      pure (c, if place + 1 < c.fields.length then
        some { c with place := place + 1, admitsFunctions := false, path? } else none)
    | some ('-' :: letter :: letters) =>
      if (letter :: letters).all (· == 'p') then passOptions v limit (place + 1) (some Search.usualPath) c
      else pure (c, none)
    | some _ => pure (c, some found)

/-- Looks behind the command `command` for the command that is to run. -/
def resolve (v : Services) : (limit : Nat) → Call → Act Call
  | 0, c => pure c
  | limit + 1, c => do
    let isFunction := c.admitsFunctions && ((← get).functions.lookup c.name).isSome
    if c.name = "command".toList ∧ !isFunction then
      match ← passOptions v (c.rest.length + c.fields.length + 1) (c.place + 1) c.path? c with
      | (_, some next) => resolve v limit next
      | (same, none) => pure same
    else pure c

end Call

/-- The fields of the words of a command; the words of some commands may be assignments. -/
def otherFields (v : Services) (mayAssign : Bool) : List Word → Act (List Octets)
  | [] => pure []
  | w :: rest => do
    let fields ← match if mayAssign then Reader.assignment? w else none with
      | some (name, value) => do
        pure [name ++ ['='] ++ (← expandText v .assignment value)]
      | none => expandWord v w
    pure (fields ++ (← otherFields v mayAssign rest))

/-- Carries out assignments, and yields them with their values. -/
def assignAll (v : Services) (isLocal isExported : Bool) : List (Octets × Word) → Act (List Octets)
  | [] => pure []
  | (name, w) :: rest => do
    let value ← expandText v .assignment w
    if isLocal then makeLocal name
    setVariable name (some value) (isLocal || isExported)
    pure ((name ++ ['='] ++ value) :: (← assignAll v isLocal isExported rest))

def traceMark (v : Services) : Act Octets := do
  let source := ((← get).lookup "PS4".toList).getD []
  match (Reader.readWord (fun _ ↦ pure .nothing) (.document [] false) .double).run
      { segments := [⟨source, none⟩] } with
  | .ok ((w, _), _) => do
    modify ({ · with isTracing := true })
    let text ← expandText v { isQuoted := true } w
    modify ({ · with isTracing := false })
    pure text
  | .error _ => pure source

/-- Writes a command that is about to run to where complaints went before its redirections. -/
def trace (v : Services) (opened : Option Nat) (words : List Octets) : Act Unit := do
  let s ← get
  if s.options.contains 'x' ∧ !s.isTracing then
    let mark ← traceMark v
    match opened with
    | some file => discard (work (Process.writeOpen file (mark ++ Octets.spaced words ++ ['\n'])))
    | none => pure ()

/-! ## Running -/

def closeScopes : (count : Nat) → Act Unit
  | 0 => pure ()
  | count + 1 => do
    closeScope
    closeScopes count

/-- Whether a name is that of the program which lets time pass. -/
def isSleep (name : Octets) : Bool := Path.base name == "sleep".toList

/-- Runs a command whose words are known. After a complaint, a special command ends the shell. -/
def execute (v : Services) (stance : Stance) (c : Call) (isSpecialFirst : Bool) (words : List Octets) :
    Act Nat := do
  let name := words.headD []
  let target := (← get).target c.admitsFunctions c.path? name
  if c.path?.isNone then remember name target
  match target with
  | .nothing cause =>
    complain (name ++ ": ".toList ++ refusal cause)
    pure 127
  | .builtin =>
    match ← attempt (callBuiltin v stance name (words.drop 1)) with
    | .ok status => pure status
    | .error .failed => if isSpecialFirst then throw .failed else pure (← get).status
    | .error halt => throw halt
  | .function line body => callFunction v stance line body (words.drop 1)
  | .program _ =>
    let s ← get
    let path := c.path?.getD s.path
    if stance.isLast && !s.hasTraps then replace v path words
    else
      let ending ← inChild v (replace v path words)
      if isSleep name then runCompanions
      waitForAll [ending]

/-- Runs a simple command. Assignments in front of a command hold for that command only, unless it is
a special one. -/
def runSimple (v : Services) (stance : Stance) (line : Nat) (assignments : List (Octets × Word))
    (words : List Word) (redirects : List Redirect) : Act Nat := do
  modify ({ · with line, outputStatus := 0 })
  let (fields, rest) ← firstFields v words
  let start ← get
  let isNamed := !fields.isEmpty
  let isOwn : Octets → Bool → Bool := fun name admitsFunctions ↦
    !(admitsFunctions && (start.functions.lookup name).isSome) && isBuiltin name
  let first := fields.headD []
  let isSpecialFirst := isNamed && isOwn first true && isSpecial first
  let call ← if isNamed then Call.resolve v (words.length + 1) { fields, rest }
    else pure { fields, rest }
  let isBuiltinCall := isNamed && isOwn call.name call.admitsFunctions
  let others ← otherFields v (isBuiltinCall && takesAssignments call.name) call.rest
  let all := call.fields ++ others
  let isLocal := isNamed && !isSpecialFirst
  let depth := (← get).scopes.length
  if isLocal then openScope
  let isReplacing := isBuiltinCall && call.name == "exec".toList
  let p := (← get).process
  let opened := p.openOf? 2
  let redirections ← expandRedirects v redirects
  let before := redirections.map fun r ↦ (r.descriptor, p.openOf? r.descriptor)
  let act : Act Nat := do
    if !(← redirectSafely v redirections) then
      if isSpecialFirst then throw .failed else pure 2
    else
      let exports := isReplacing && all.length > call.place + 1
      let assigned ← assignAll v isLocal exports assignments
      trace v opened (assigned ++ all)
      if !isNamed then pure (← get).outputStatus
      else execute v stance call isSpecialFirst (all.drop call.place)
  let outcome ← attempt act
  let isKept := match outcome with
    | .ok _ => isReplacing
    | .error _ => false
  if !isKept then onProcess fun p ↦ before.reverse.foldl Redirection.putBack p
  closeScopes ((← get).scopes.length - depth)
  match outcome with
  | .ok status =>
    setStatus status
    pure status
  | .error halt => throw halt

end ProgressActions.Shell.Act
