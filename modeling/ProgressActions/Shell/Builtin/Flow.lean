import ProgressActions.Shell.Builtin.Basic

/-!
# Commands of a shell that change the course of a script

They leave loops, functions, scripts or the shell, or run texts and scripts in the shell.
-/

namespace ProgressActions.Shell.Builtin

def count? : List Octets → Act (Option Nat)
  | [] => pure none
  | word :: _ => do pure (some (← Act.number word))

/-- Ends the shell with a status, or with the status of the last command. -/
def exit : Builtin := fun _ arguments ↦ do
  match ← count? arguments with
  | some n => modify ({ · with savedStatus := some n })
  | none => pure ()
  throw .left

def leave : Builtin := fun _ arguments ↦ do
  match ← count? arguments with
  | some n =>
    modify ({ · with skip := some (.function true) })
    pure n
  | none =>
    modify ({ · with skip := some (.function false) })
    pure (← get).status

/-- Leaves loops or rounds of them. Outside of loops there is nothing to leave. -/
def leaveLoops (skip : Nat → Skip) : Builtin := fun _ arguments ↦ do
  let n := (← count? arguments).getD 1
  if n = 0 then Act.fail ("Illegal number: ".toList ++ arguments.headD [])
  let s ← get
  let reached := min n s.loops
  if reached > 0 then set { s with skip := some (skip reached) }
  pure 0

def evaluateWords (v : Services) (stance : Stance) : Builtin := fun _ arguments ↦ do
  if arguments = [] then pure 0
  else v.evaluate { stance with isLast := false } (Octets.spaced arguments)

def scriptPath (s : State) (name : Octets) : Option Octets :=
  if name.contains '/' then some name
  else
    let paths := (Octets.splitAt ':' ((s.lookup "PATH".toList).getD [])).map fun directory ↦
      if directory = [] then name else directory ++ ['/'] ++ name
    paths.find? fun path ↦ match s.process.node? path with
      | .ok id => s.process.machine.isRegular id
      | .error _ => false

def source (v : Services) : Builtin := fun _ arguments ↦ do
  match ← withoutOptions arguments with
  | [] => pure 0
  | name :: _ =>
    match scriptPath (← get) name with
    | none => Act.fail (name ++ ": not found".toList)
    | some path =>
      match ← Act.work (Process.openFile path .reading) with
      | .error e =>
        let reason := if e = .missing ∨ e = .notDirectory then "No such file" else e.description
        Act.fail ("cannot open ".toList ++ path ++ ": ".toList ++ reason.toList)
      | .ok opened =>
        let text ← Act.work (Process.readOpen opened)
        modify ({ · with commandName := some path })
        let status ← v.evaluate {} (text.toOption.getD [])
        modify fun s ↦
          { s with skip := match s.skip with
            | some (.function _) => none
            | other => other }
        pure status

end ProgressActions.Shell.Builtin
