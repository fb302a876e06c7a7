import ProgressActions.Process

/-!
# Running programs by their names

A name without slashes is looked up in the directories of a path, one after another. A file that is no
program is a script for a shell.
-/

namespace ProgressActions.Search

/-- The path of directories that is taken when nothing else is said. -/
def usualPath : Octets := "/usr/local/sbin:/usr/local/bin:/usr/sbin:/usr/bin:/sbin:/bin".toList

/-- The paths that a name may have in the directories of a path. -/
def candidates (path name : Octets) : List Octets :=
  (Octets.splitAt ':' path).map fun directory ↦
    if directory = [] then name else directory ++ ['/'] ++ name

/-- The paths that a name may have, which is itself one if it holds a slash. -/
def paths (path name : Octets) : List Octets := if name.contains '/' then [name] else candidates path name

theorem paths_of_mem {path name : Octets} (h : '/' ∈ name) : paths path name = [name] := by
  simp [paths, h]

/-- Whether a refusal says that there is nothing under a path. -/
def isAbsence (cause : SystemError) : Bool := cause == .missing || cause == .notDirectory

/-- Tries programs one after another in the process at hand, and yields how the first one that can be run
ends. -/
def runFirst (launch : Launcher) (words : List Octets) : (cause : SystemError) → List Octets →
    Work (Except SystemError Ending)
  | cause, [] => pure (.error cause)
  | cause, path :: rest => do
    match ← launch path words with
    | .ok ending => pure (.ok ending)
    | .error .notExecutable => launch "/bin/sh".toList ("/bin/sh".toList :: path :: words.drop 1)
    | .error e => runFirst launch words (if isAbsence e then cause else e) rest

/-- The status for a program that cannot be run. -/
def refusalStatus (cause : SystemError) : Nat :=
  if isAbsence cause || cause == .nameTooLong || cause == .tooManyLinks then 127 else 126

/-- Turns the process into the program that words name, and yields how it ends. -/
def run (launch : Launcher) (words : List Octets) : Work (Except SystemError Ending) := do
  let path := ((← get).environment.lookup "PATH".toList).getD "/bin:/usr/bin".toList
  let name := words.headD []
  if name = [] then pure (.error .missing) else runFirst launch words .missing (paths path name)

end ProgressActions.Search
