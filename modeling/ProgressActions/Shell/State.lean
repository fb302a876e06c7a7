import ProgressActions.Number.Word64
import ProgressActions.Process
import ProgressActions.Shell.Syntax

/-!
# The state of a shell

Parameters, functions, aliases and traps, and the process that the shell is. An act changes the state, and
may end the shell before all of it is done.
-/

namespace ProgressActions.Shell

/-- A variable, which may have been announced without a value. -/
structure Variable where
  name : Octets
  value : Option Octets := none
  isExported : Bool := false
  isConstant : Bool := false
  /-- Whether the variable stays known without a value. -/
  isKept : Bool := false
  deriving DecidableEq, Repr

/-- What is left out of a script without ending the shell. -/
inductive Skip where
  /-- So many loops are left. -/
  | loops (count : Nat)
  /-- So many loops but one are left, and the last one goes on with its next round. -/
  | rounds (count : Nat)
  /-- A function or a script is left, with a status of its own or without. -/
  | function (hasStatus : Bool)
  deriving DecidableEq, Repr

inductive Halt where
  /-- After a complaint. -/
  | failed
  /-- After its last command. -/
  | ended
  /-- Because it was told to end. -/
  | left
  /-- The process has come to an ending of its own, as another program or by a signal. -/
  | over (ending : Ending)
  deriving DecidableEq, Repr

def Halt.killed (signal : Signal) : Halt := .over (.killed signal)

/-- When a trap is sprung: on a signal, or at the end of the shell. -/
abbrev Trigger := Option Signal

/-- A process that runs beside the shell. Its work is done when somebody waits for it. -/
structure Companion where
  id : Nat
  /-- The number of the job. -/
  job : Nat
  work : Machine → Ending × Machine
  /-- How the process has ended. -/
  ending : Option Ending := none
  /-- Whether somebody has waited for the process. -/
  isWaitedFor : Bool := false

structure Scope where
  bindings : List (Octets × Option Variable) := []
  options : Option (List Char) := none

structure State where
  process : Process
  /-- The name under which the shell runs. -/
  name : Octets
  bindings : List Variable := []
  positional : List Octets := []
  /-- The status of the last command. -/
  status : Nat := 0
  /-- The status of the last command whose output was put in. -/
  outputStatus : Nat := 0
  /-- The letters of the options that are on. -/
  options : List Char := []
  functions : List (Octets × Nat × Command) := []
  aliases : List (Octets × Octets) := []
  traps : List (Trigger × Octets) := []
  documents : Array Document := #[]
  /-- Signals that have come and wait for their traps. -/
  pending : List Signal := []
  /-- The status to end with, if that has been said. -/
  savedStatus : Option Nat := none
  /-- How many calls of functions are at work. -/
  calls : Nat := 0
  /-- How many loops are at work. -/
  loops : Nat := 0
  skip : Option Skip := none
  /-- What the variables were before functions and commands had their own ones, the innermost first. -/
  scopes : List Scope := []
  /-- The line on which the function at work begins, if there is one. -/
  functionLine : Nat := 0
  /-- The number of the line at hand. -/
  line : Nat := 1
  /-- The command of the shell on whose behalf it complains. -/
  commandName : Option Octets := none
  companions : List Companion := []
  /-- The number of the process that was started last without waiting for it. -/
  background : Option Nat := none
  /-- The number of the process that the shell reports as its own. -/
  rootId : Nat := 1
  /-- The number of the parameter to look for options in. -/
  optionIndex : Nat := 1
  /-- How much of a word of options has been read. -/
  optionPlace : Option Nat := none
  /-- The path of the directory, as it was gone to. -/
  directory : Octets := ['/']
  /-- Whether something could not be written. -/
  outputFailed : Bool := false
  /-- Whether the mark in front of traced commands is being put together. -/
  isTracing : Bool := false
  /-- The places of programs that have been found. -/
  found : List (Octets × Octets) := []

abbrev Act := ExceptT Halt (StateM State)

namespace Act

def work {α : Type} (w : Work α) : Act α := do
  let s ← get
  let (result, process) := w.run s.process
  set { s with process }
  pure result

def onProcess (f : Process → Process) : Act Unit := modify fun s ↦ { s with process := f s.process }

/-- Writes to a descriptor, and takes note if that is not possible. -/
def writeTo (descriptor : Nat) (text : Octets) : Act Unit := do
  match ← work (Process.write descriptor text) with
  | .ok () => pure ()
  | .error _ => modify ({ · with outputFailed := true })

def print (text : Octets) : Act Unit := do if text ≠ [] then writeTo 1 text

/-- Writes to the standard error. What cannot be written is lost. -/
def printError (text : Octets) : Act Unit := discard (work (Process.write 2 text))

/-- Complains under the name of the shell, the number of the line and the name of the command. -/
def complain (text : Octets) : Act Unit := do
  let s ← get
  let occasion := match s.commandName with
    | some name => name ++ ": ".toList
    | none => []
  printError (s.name ++ ": ".toList ++ Text.numeral s.line ++ ": ".toList ++ occasion ++ text ++ ['\n'])

def fail {α : Type} (text : Octets) : Act α := do
  complain text
  modify ({ · with status := 2 })
  throw .failed

def setStatus (status : Nat) : Act Unit := modify ({ · with status })

def hasOption (letter : Char) : Act Bool := do pure ((← get).options.contains letter)

/-- Does something, and yields what becomes of it. -/
def attempt {α : Type} (act : Act α) : Act (Except Halt α) :=
  ExceptT.mk (do pure (.ok (← ExceptT.run act)))

/-- Does something and then something else, even if the first does not get to its end. -/
def ensuring {α : Type} (act : Act α) (last : Act Unit) : Act α := do
  let outcome ← attempt act
  last
  match outcome with
  | .ok result => pure result
  | .error halt => throw halt

end Act

namespace State

/-! ## Variables -/

def binding? (s : State) (name : Octets) : Option Variable := s.bindings.find? (·.name == name)

/-- The number of the line that scripts get to see. -/
def visibleLine (s : State) : Nat :=
  if s.functionLine = 0 then s.line else s.line - (s.functionLine - 1)

/-- The value of a variable. The number of the line is one as long as nothing else is said. -/
def lookup (s : State) (name : Octets) : Option Octets :=
  match s.binding? name with
  | some v => v.value
  | none => if name = "LINENO".toList then some (Text.numeral s.visibleLine) else none

def putVariable (s : State) (v : Variable) : State :=
  if (s.binding? v.name).isSome then
    { s with bindings := s.bindings.map fun other ↦ if other.name = v.name then v else other }
  else { s with bindings := s.bindings ++ [v] }

def dropVariable (s : State) (name : Octets) : State :=
  { s with bindings := s.bindings.filter (·.name != name) }

def listCount : Nat := 39

def listOf (name : Octets) : Nat :=
  ((name.headD '\x00').toNat * 16 + (name.map Char.toNat).foldl (· + ·) 0) % listCount

/-- The variables that commands find in their environment, list by list. -/
def environment (s : State) : Environment :=
  (List.range listCount).flatMap fun place ↦
    s.bindings.filterMap fun v ↦
      if v.isExported ∧ listOf v.name = place then v.value.map fun value ↦ (v.name, value) else none

def separators (s : State) : Octets := (s.lookup "IFS".toList).getD [' ', '\t', '\n']

end State

namespace Act

def lookup (name : String) : Act (Option Octets) := do pure ((← get).lookup name.toList)

/-- Sets a variable, or takes its value away, unless it is constant. -/
def setVariable (name : Octets) (value : Option Octets) (isExported isConstant : Bool := false) :
    Act Unit := do
  let s ← get
  let old := (s.binding? name).getD { name }
  if old.isConstant then fail (name ++ ": is read only".toList)
  else
    let exports := isExported || s.options.contains 'a'
    if value.isNone && !exports && !isConstant && !old.isKept then set (s.dropVariable name)
    else set (s.putVariable { old with value, isExported := exports || old.isExported, isConstant })
    if name = "OPTIND".toList then
      let index := (value.bind (Word64.whole? true)).getD 1
      modify ({ · with optionIndex := max 1 index.toNat, optionPlace := none })
    if name = "PATH".toList then modify ({ · with found := [] })

def assign (name value : Octets) : Act Unit := setVariable name (some value)

/-- Makes a variable belong to the innermost scope. -/
def makeLocal (name : Octets) : Act Unit := do
  let s ← get
  match s.scopes with
  | scope :: outer =>
    let old := s.binding? name
    set { (s.putVariable { old.getD { name } with isKept := true }) with
      scopes := { scope with bindings := (name, old) :: scope.bindings } :: outer }
  | [] => pure ()

/-- Makes the options belong to the innermost scope. -/
def makeOptionsLocal : Act Unit := modify fun s ↦
  match s.scopes with
  | scope :: outer =>
    { s with scopes := { scope with options := scope.options.or (some s.options) } :: outer }
  | [] => s

def openScope : Act Unit := modify fun s ↦ { s with scopes := {} :: s.scopes }

/-- Closes a scope: the variables have the values from before. -/
def closeScope : Act Unit := modify fun s ↦
  match s.scopes with
  | scope :: outer =>
    let closed := { s with scopes := outer, options := scope.options.getD s.options }
    scope.bindings.foldl (fun s (name, old) ↦ match old with
      | some v => s.putVariable v
      | none => s.dropVariable name) closed
  | [] => s

def number (word : Octets) : Act Nat := do
  match Word64.whole? true word with
  | some n => if 0 ≤ n ∧ n < Nat.pow 2 31 then pure n.toNat else illegal
  | none => illegal
where
  illegal : Act Nat := fail ("Illegal number: ".toList ++ word)

def setMachine (machine : Machine) : Act Unit :=
  onProcess fun p ↦ { p with machine }

end Act

structure Stance where
  /-- Whether somebody asks for the status, so that a failure does not end the shell. -/
  isTested : Bool := false
  /-- Whether the shell has nothing else to do afterwards. -/
  isLast : Bool := false

structure Services where
  launch : Launcher
  /-- Runs a command and yields what it writes. -/
  capture : Command → Act Octets
  /-- Runs a text in the shell at hand. -/
  evaluate : Stance → Octets → Act Nat
  /-- Runs a command in the shell at hand. -/
  run : Stance → Command → Act Nat

end ProgressActions.Shell
