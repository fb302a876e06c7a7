import ProgressActions.Machine.Basic

/-!
# Paths

A path leads from a directory through names to a node, or to a place in a directory where there is none
yet. Links on the way are followed, up to a limit.
-/

namespace ProgressActions

structure Place where
  /-- The directory that the last name is looked up in. -/
  directory : Nat
  /-- The last name. -/
  name : Octets
  /-- The node that is found there. -/
  node? : Option Nat
  deriving DecidableEq, Repr

namespace Path

/-- The names of a path in order. A slash at the end asks for a directory and counts as the name of a
directory in itself. -/
def names (path : Octets) : List Octets :=
  let found := (Octets.splitAt '/' path).filter (· != [])
  if path.getLast? = some '/' then found ++ [['.']] else found

/-- Whether a path begins at the top of the file tree. -/
def isAbsolute (path : Octets) : Bool := path.head? == some '/'

/-- A path without slashes at its end; the top of the file tree keeps one. -/
def withoutSlashes (path : Octets) : Octets :=
  match (path.reverse.dropWhile (· == '/')).reverse with
  | [] => if path = [] then [] else ['/']
  | rest => rest

/-- Everything in front of the last slash of a path. -/
def parent (path : Octets) : Octets :=
  match (withoutSlashes path).reverse.dropWhile (· != '/') with
  | [] => ['.']
  | reversed => withoutSlashes reversed.reverse

/-- The last name of a path. -/
def base (path : Octets) : Octets :=
  let trimmed := withoutSlashes path
  if trimmed = ['/'] then trimmed else (trimmed.reverse.takeWhile (· != '/')).reverse

def join (directory name : Octets) : Octets :=
  if directory.getLast? = some '/' then directory ++ name else directory ++ ['/'] ++ name

/-- The greatest length of a name. -/
def maxName : Nat := 255

/-- The greatest length of a path. -/
def maxPath : Nat := 4095

/-- How many links are followed on the way. -/
def maxLinks : Nat := 40

end Path

namespace Machine

/-- Follows names from a directory. The last one is followed if it is a link and that is asked for. -/
def walk (m : Machine) (follows : Bool) : (limit links : Nat) → (place : Nat) → List Octets →
    Except SystemError Place
  | 0, _, _, _ => .error .tooManyLinks
  | _ + 1, _, place, [] => .ok ⟨place, ['.'], some place⟩
  | limit + 1, links, place, name :: rest =>
    match m.directory? place with
    | none => .error .notDirectory
    | some (parent, entries) =>
      if name = ['.'] then m.walk follows limit links place rest
      else if name = ['.', '.'] then m.walk follows limit links parent rest
      else if name.length > Path.maxName then .error .nameTooLong
      else
        match entries.lookup name with
        | none => if rest = [] then .ok ⟨place, name, none⟩ else .error .missing
        | some id =>
          match m.body id with
          | .link target =>
            if rest = [] ∧ !follows then .ok ⟨place, name, some id⟩
            else
              match links with
              | 0 => .error .tooManyLinks
              | links + 1 =>
                m.walk follows limit links (if Path.isAbsolute target then root else place)
                  (Path.names target ++ rest)
          | _ => if rest = [] then .ok ⟨place, name, some id⟩ else m.walk follows limit links id rest

/-- Where a path leads, seen from a directory. -/
def place (m : Machine) (follows : Bool) (start : Nat) (path : Octets) : Except SystemError Place :=
  if path = [] then .error .missing
  else if path.length > Path.maxPath then .error .nameTooLong
  else
    m.walk follows (path.length + (Path.maxLinks + 1) * Path.maxPath) Path.maxLinks
      (if Path.isAbsolute path then root else start) (Path.names path)

/-- The node that a path leads to, seen from a directory. -/
def lookup (m : Machine) (follows : Bool) (start : Nat) (path : Octets) : Except SystemError Nat := do
  match (← m.place follows start path).node? with
  | some id => pure id
  | none => .error .missing

/-- The names on the way from the top of the file tree to a directory. -/
def namesTo (m : Machine) : (limit : Nat) → (id : Nat) → List Octets
  | 0, _ => []
  | limit + 1, id =>
    if id = root then []
    else
      match m.directory? id with
      | none => []
      | some (parent, _) =>
        match (m.entries parent).find? (·.2 == id) with
        | some (name, _) => m.namesTo limit parent ++ [name]
        | none => []

/-- The path of a directory from the top of the file tree. -/
def pathTo (m : Machine) (id : Nat) : Octets :=
  '/' :: ['/'].intercalate (m.namesTo m.nodes.size id)

/-- Makes a file with its content, and the directories on the way to it. -/
def addFile (m : Machine) (start : Nat) (body : Body) (mode : Nat) : List Octets → Machine
  | [] => m
  | [name] => (m.create start name body mode).2
  | name :: rest =>
    match (m.entries start).lookup name with
    | some id => m.addFile id body mode rest
    | none =>
      let (id, next) := m.create start name (.directory start []) 0o755
      next.addFile id body mode rest

end Machine

end ProgressActions
