import ProgressActions.Process
import ProgressActions.Shell.Pattern

/-!
# Patterns of paths

A pattern of paths stands for the files whose paths are of its form, name by name. Names with a dot in
front are only found by patterns that have it, too.
-/

namespace ProgressActions.Shell.Glob

/-- Whether brackets are closed before a slash, the first character in them being one of theirs. -/
def closesBrackets : Octets → Bool
  | '\\' :: c :: rest => c != '/' && (rest.head? == some ']' || closesBrackets rest)
  | c :: rest => c != '/' && (rest.head? == some ']' || closesBrackets rest)
  | [] => false

/-- What brackets hold after an exclamation mark in front. -/
def withoutMark : Octets → Octets
  | '!' :: rest => rest
  | text => text

def isActive : Octets → Bool
  | '\\' :: _ :: rest => isActive rest
  | c :: rest => c == '*' || c == '?' || (c == '[' && closesBrackets (withoutMark rest)) || isActive rest
  | [] => false

def literal : Octets → Octets
  | '\\' :: c :: rest => c :: literal rest
  | c :: rest => c :: literal rest
  | [] => []

/-- The patterns between the slashes of a pattern. -/
def sections : Octets → List Octets
  | [] => [[]]
  | '\\' :: '/' :: rest => [] :: sections rest
  | '\\' :: c :: rest =>
    match sections rest with
    | first :: more => ('\\' :: c :: first) :: more
    | [] => [['\\', c]]
  | c :: rest =>
    if c = '/' then [] :: sections rest
    else
      match sections rest with
      | first :: more => (c :: first) :: more
      | [] => [[c]]

/-- The names in a directory, with those of the directory itself and of its parent. -/
def namesIn (p : Process) (path : Octets) : List Octets :=
  match p.node? (if path = [] then ['.'] else path) with
  | .ok id =>
    if p.machine.isDirectory id then ['.'] :: ['.', '.'] :: (p.machine.entries id).map (·.1) else []
  | .error _ => []

/-- The paths of files that sections of a pattern stand for, behind a path that has been found. The path
ends with a slash unless it is empty. -/
def search (p : Process) : (found : Octets) → List Octets → List Octets
  | _, [] => []
  | found, [last] =>
    if isActive last then
      let matching := (namesIn p found).filter fun name ↦
        (name.head? != some '.' || (literal last).head? == some '.') && Pattern.isMatch last name
      matching.map (found ++ ·)
    else
      let path := found ++ literal last
      match p.node? path false with
      | .ok _ => [path]
      | .error _ => []
  | found, name :: rest =>
    if isActive name then
      let matching := (namesIn p found).filter fun entry ↦
        (entry.head? != some '.' || (literal name).head? == some '.') && Pattern.isMatch name entry
      matching.flatMap fun entry ↦ search p (found ++ entry ++ ['/']) rest
    else search p (found ++ literal name ++ ['/']) rest

/-- The paths that a pattern stands for, in order. -/
def expand (p : Process) (pattern : Octets) : List Octets :=
  if isActive pattern then (search p [] (sections pattern)).mergeSort Octets.upTo else []

/-- A pattern that stands for one text only finds no files. -/
theorem expand_of_not_isActive (p : Process) (pattern : Octets) (h : isActive pattern = false) :
    expand p pattern = [] := by
  simp [expand, h]

end ProgressActions.Shell.Glob
