import ProgressActions.Process.Search
import ProgressActions.Shell.Grammar
import ProgressActions.Shell.State

/-!
# Finding commands

A name stands for a function, for a command of the shell itself, or for a program in one of the
directories of a path. Programs that have been found are remembered.
-/

namespace ProgressActions.Shell

/-- The commands of the shell that are found wherever programs are. -/
def regularNames : List String :=
  ["alias", "bg", "cd", "chdir", "command", "false", "fg", "getopts", "jobs", "kill", "pwd", "read",
   "true", "umask", "unalias", "wait"]

def plainNames : List String := ["echo", "hash", "printf", "test", "type", "ulimit", "["]

def isSpecial (name : Octets) : Bool := specialNames.contains (String.ofList name)

def isBuiltin (name : Octets) : Bool :=
  isSpecial name || regularNames.contains (String.ofList name) || plainNames.contains (String.ofList name)

def takesAssignments (name : Octets) : Bool :=
  ["alias", "export", "local", "readonly"].contains (String.ofList name)

inductive Target where
  /-- A function: the line on which it begins, and its body. -/
  | function (line : Nat) (body : Command)
  | builtin
  /-- A program in a file. -/
  | program (path : Octets)
  | nothing (cause : SystemError)

/-- The first file among candidates, or why there is none. -/
def firstFile (p : Process) : (cause : SystemError) → List Octets → Except SystemError Octets
  | cause, [] => .error cause
  | cause, candidate :: rest =>
    match p.node? candidate with
    | .ok id => if p.machine.isRegular id then .ok candidate else firstFile p .accessDenied rest
    | .error e => firstFile p (if Search.isAbsence e then cause else e) rest

namespace State

def path (s : State) : Octets := (s.lookup "PATH".toList).getD []

def program (s : State) (path name : Octets) : Target :=
  match firstFile s.process .missing (Search.candidates path name) with
  | .ok found => .program found
  | .error cause => .nothing cause

/-- What a name stands for. Functions may be left out, and programs may be looked for on another path. -/
def target (s : State) (admitsFunctions : Bool) (path? : Option Octets) (name : Octets) : Target :=
  if name.contains '/' then .program name
  else
    let isOwn := isBuiltin name
    match if admitsFunctions then s.functions.lookup name else none with
    | some (line, body) => .function line body
    | none =>
      if isOwn then .builtin
      else
        match path? with
        | some path => s.program path name
        | none =>
          match s.found.lookup name with
          | some place => .program place
          | none => s.program s.path name

end State

namespace Act

def remember (name : Octets) : Target → Act Unit
  | .program place => do
    let s ← get
    if !name.contains '/' ∧ (s.found.lookup name).isNone then
      set { s with found := s.found ++ [(name, place)] }
  | _ => pure ()

/-- The words for a reason why a command is not run. -/
def refusal (cause : SystemError) : Octets :=
  if Search.isAbsence cause then "not found".toList else cause.description.toList

end Act

end ProgressActions.Shell
