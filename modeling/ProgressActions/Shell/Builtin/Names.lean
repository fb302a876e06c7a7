import ProgressActions.Shell.Builtin.Basic
import ProgressActions.Shell.Search

/-!
# Commands of a shell about the names of commands

They tell what names stand for, remember the places of programs, and give names to texts.
-/

namespace ProgressActions.Shell.Builtin

/-! ## Telling about names -/

def listOf (count : Nat) (name : Octets) : Nat :=
  ((name.headD '\x00').toNat * 16 + (name.map Char.toNat).foldl (· + ·) 0) % count

def byLists {α : Type} (count : Nat) (entries : List (Octets × α)) : List (Octets × α) :=
  (List.range count).flatMap fun place ↦ entries.filter fun entry ↦ listOf count entry.1 == place

def aliasLine (name text : Octets) : Octets := name ++ ['='] ++ quote text ++ ['\n']

/-- Tells what a name stands for, in many words or in few; programs may be looked for on another path. -/
def describe (isVerbose : Bool) (path? : Option Octets) (name : Octets) : Act Nat := do
  let s ← get
  let tell : Octets → Octets → Act Nat := fun words short ↦ do
    Act.print ((if isVerbose then name ++ words else short) ++ ['\n'])
    pure 0
  if keywords.contains (String.ofList name) then tell " is a shell keyword".toList name
  else
    match s.aliases.lookup name with
    | some text =>
      if isVerbose then tell (" is an alias for ".toList ++ text) []
      else
        Act.print ("alias ".toList ++ aliasLine name text)
        pure 0
    | none =>
      let nothing : Act Nat := do
        if isVerbose then Act.print (name ++ ": not found\n".toList)
        pure 127
      match s.target true path? name with
      | .function _ _ => tell " is a shell function".toList name
      | .builtin =>
        tell ((if isSpecial name then " is a special shell builtin" else " is a shell builtin").toList) name
      | .program place =>
        if name.contains '/' ∧ (s.process.node? place).toOption.isNone then nothing
        else
          let isTracked := path?.isNone && (s.found.lookup name).isSome
          if path?.isNone then Act.remember name (.program place)
          tell ((if isTracked then " is a tracked alias for " else " is ").toList ++ place) place
      | .nothing _ => nothing

def type : Builtin := fun _ arguments ↦ do
  let mut status := 0
  for name in ← withoutOptions arguments do
    status := status ||| (← describe true none name)
  pure status

/-- Tells what a name stands for. That is all that is left when the words name no command to run. -/
def command : Builtin := fun _ arguments ↦ do
  let (found, words) ← flags "pvV" arguments
  let path? := if found.contains 'p' then some Search.usualPath else none
  match words with
  | [] => pure 0
  | name :: _ =>
    if found.contains 'V' then describe true path? name
    else if found.contains 'v' then describe false path? name
    else pure 0

/-- Remembers the places of programs, or lists them, or forgets them. -/
def hash : Builtin := fun _ arguments ↦ do
  let (found, words) ← flags "r" arguments
  if found ≠ [] then
    modify ({ · with found := [] })
    pure 0
  else if words = [] then
    Act.print ((byLists 31 (← get).found).flatMap fun (_, place) ↦ place ++ ['\n'])
    pure 0
  else
    let mut status := 0
    for name in words do
      modify fun s ↦ { s with found := s.found.filter (·.1 != name) }
      match (← get).target true none name with
      | .nothing cause =>
        Act.complain (name ++ ": ".toList ++ Act.refusal cause)
        status := 1
      | target => Act.remember name target
    pure status

/-! ## Aliases -/

/-- Names texts, or tells about the names. -/
def aliased : Builtin := fun _ arguments ↦ do
  if arguments = [] then
    Act.print ((byLists 39 (← get).aliases).flatMap fun (name, text) ↦ aliasLine name text)
    pure 0
  else
    let mut status := 0
    for word in arguments do
      let name := word.take 1 ++ (word.drop 1).takeWhile (· != '=')
      match word.drop name.length with
      | '=' :: text =>
        modify fun s ↦
          { s with aliases :=
            if (s.aliases.lookup name).isSome then
              s.aliases.map fun (a : Octets × Octets) ↦ if a.1 = name then (name, text) else a
            else s.aliases ++ [(name, text)] }
      | _ =>
        match (← get).aliases.lookup word with
        | some text => Act.print (aliasLine word text)
        | none =>
          Act.printError ("alias: ".toList ++ word ++ " not found\n".toList)
          status := 1
    pure status

def unalias : Builtin := fun _ arguments ↦ do
  let (found, words) ← flags "a" arguments
  if found ≠ [] then
    modify ({ · with aliases := [] })
    pure 0
  else
    let mut status := 0
    for name in words do
      if ((← get).aliases.lookup name).isNone then
        Act.printError ("unalias: ".toList ++ name ++ " not found\n".toList)
        status := 1
      modify fun s ↦ { s with aliases := s.aliases.filter (·.1 != name) }
    pure status

end ProgressActions.Shell.Builtin
