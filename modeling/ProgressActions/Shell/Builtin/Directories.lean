import ProgressActions.Machine.Permissions
import ProgressActions.Shell.Builtin.Basic

/-!
# Commands of a shell about its directory and its mask

The path of the directory is kept as it was gone to, names of links included. The mask takes permissions
away from files that are made.
-/

namespace ProgressActions.Shell.Builtin

/-! ## Directories -/

/-- The path that names lead to from a path, two dots leading back by a name. -/
def followNames (start : List Octets) (names : List Octets) : List Octets :=
  names.foldl (fun path name ↦
    if name = [] ∨ name = ['.'] then path
    else if name = ['.', '.'] then path.dropLast
    else path ++ [name]) start

/-- The path that a path leads to from the directory at hand, by its names only. -/
def logicalPath (directory path : Octets) : Octets :=
  let names : Octets → List Octets := fun text ↦ (Octets.splitAt '/' text).filter (· != [])
  let start := if Path.isAbsolute path then [] else names directory
  let doubled : Bool := match (if Path.isAbsolute path then path else directory) with
    | '/' :: '/' :: c :: _ => c != '/'
    | ['/', '/'] => true
    | _ => false
  (if doubled then ['/', '/'] else ['/']) ++ ['/'].intercalate (followNames start (names path))

/-- Takes note of the path of the directory, in variables for commands, too. -/
def setDirectory (path : Octets) : Act Unit := do
  let s ← get
  Act.setVariable "OLDPWD".toList (some s.directory) true
  modify ({ · with directory := path })
  Act.setVariable "PWD".toList (some path) true

def goTo (isPhysical : Bool) (path : Octets) : Act Bool := do
  let s ← get
  let wanted := if isPhysical then path else logicalPath s.directory path
  match s.process.node? wanted with
  | .ok id =>
    if s.process.machine.isDirectory id then
      Act.onProcess fun p ↦ { p with directory := id }
      setDirectory (if isPhysical then s.process.machine.pathTo id else wanted)
      pure true
    else pure false
  | .error _ => pure false

def beginsWithDots (path : Octets) : Bool :=
  match path with
  | ['.'] => true
  | '.' :: '/' :: _ => true
  | ['.', '.'] => true
  | '.' :: '.' :: '/' :: _ => true
  | _ => false

/-- Goes to the first of several directories that exists, and tells whether one does. The path is printed
when it is not the one that was asked for. -/
def goToFirst (isPhysical prints : Bool) (path : Octets) : List Octets → Act (Option Bool)
  | [] => do pure (if ← goTo isPhysical path then some prints else none)
  | place :: rest => do
    let s ← get
    let candidate := if place = [] then path else Path.join place path
    match s.process.node? candidate with
    | .ok id =>
      if s.process.machine.isDirectory id then
        pure (if ← goTo isPhysical candidate then some (prints || place != []) else none)
      else goToFirst isPhysical prints path rest
    | .error _ => goToFirst isPhysical prints path rest

def changeDirectory : Builtin := fun _ arguments ↦ do
  let (found, words) ← flags "LP" arguments
  let isPhysical := found.getLast? == some 'P'
  let (path, prints) ← match words with
    | [] => do pure ((← Act.lookup "HOME").getD [], false)
    | ['-'] :: _ => do pure ((← Act.lookup "OLDPWD").getD [], true)
    | path :: _ => pure (path, false)
  let places : List Octets ←
    if Path.isAbsolute path ∨ beginsWithDots path then pure []
    else do pure (((← Act.lookup "CDPATH").map (Octets.splitAt ':')).getD [])
  let direct := if path = [] then ['.'] else path
  match ← goToFirst isPhysical prints direct places with
  | some printing =>
    if printing then Act.print ((← get).directory ++ ['\n'])
    pure 0
  | none => Act.fail ("can't cd to ".toList ++ direct)

def printDirectory : Builtin := fun _ arguments ↦ do
  let (found, _) ← flags "LP" arguments
  let s ← get
  let path := if found.getLast? = some 'P' then
      s.process.machine.pathTo s.process.directory
    else s.directory
  Act.print (path ++ ['\n'])
  pure 0

/-! ## Masks -/

def permissionLetters (bits : Nat) : Octets :=
  (if bits &&& 4 ≠ 0 then ['r'] else []) ++ (if bits &&& 2 ≠ 0 then ['w'] else []) ++
    (if bits &&& 1 ≠ 0 then ['x'] else [])

/-- Prints or sets the permissions that new files do not get. -/
def mask : Builtin := fun _ arguments ↦ do
  let (found, words) ← flags "S" arguments
  let current := (← get).process.mask
  match words with
  | [] =>
    if found.contains 'S' then
      let given := 0o777 - current
      Act.print ("u=".toList ++ permissionLetters (given / 64) ++ ",g=".toList ++
        permissionLetters (given / 8 % 8) ++ ",o=".toList ++ permissionLetters (given % 8) ++ ['\n'])
    else Act.print (Text.paddedNumeral 4 (Text.digitsValue (Nat.toDigits 8 current)) ++ ['\n'])
    pure 0
  | word :: _ =>
    if word.head?.any Char.isDigit then
      if word.all Text.isOctalDigit then
        Act.onProcess fun p ↦ { p with mask := Text.octalValue word % 512 }
        pure 0
      else Act.fail ("Illegal number: ".toList ++ word)
    else
      match Permissions.change? 0 true (0o777 - current) word with
      | some given =>
        Act.onProcess fun p ↦ { p with mask := 0o777 - given % 512 }
        pure 0
      | none => Act.fail ("Illegal mode: ".toList ++ word)

end ProgressActions.Shell.Builtin
