import ProgressActions.Process

/-!
# Changing the file tree

Processes make, rename and remove the names of files and directories. Nothing is changed by a request
that is refused.
-/

namespace ProgressActions.Process

/-- What the last name of a path leads to, without following it if it is a link. -/
def placeOf (p : Process) (path : Octets) : Except SystemError Place :=
  p.machine.place false p.directory path

/-- A request that changes the machine, or is refused. -/
def requestWith {α : Type} (f : Process → Except SystemError (α × Machine)) : Work (Except SystemError α) := do
  let p ← get
  match f p with
  | .ok (result, machine) =>
    set { p with machine }
    pure (.ok result)
  | .error cause => pure (.error cause)

/-- A request that only changes the machine, or is refused. -/
def request (f : Process → Except SystemError Machine) : Work (Except SystemError Unit) :=
  requestWith fun p ↦ (f p).map ((), ·)

/-- A place for a new name. -/
def newPlace (p : Process) (path : Octets) : Except SystemError Place := do
  let found ← p.placeOf path
  if found.node?.isSome then throw .alreadyExists else pure found

def makeDirectory (path : Octets) (mode : Nat) : Work (Except SystemError Unit) :=
  request fun p ↦ do
    let found ← p.newPlace (Path.withoutSlashes path)
    pure (p.machine.create found.directory found.name (.directory found.directory []) mode).2

/-- Makes a node under a path. -/
def makeNode (path : Octets) (body : Body) (mode : Nat) : Work (Except SystemError Unit) :=
  request fun p ↦ do
    let found ← p.newPlace path
    pure (p.machine.create found.directory found.name body mode).2

/-- Makes a link that leads to a path. -/
def makeLink (target path : Octets) : Work (Except SystemError Unit) :=
  makeNode path (.link target) 0o777

/-- Gives what a path leads to a further name. -/
def addName (follows : Bool) (path further : Octets) : Work (Except SystemError Unit) :=
  request fun p ↦ do
    let id ← p.node? path follows
    if p.machine.isDirectory id then throw .notPermitted
    let found ← p.newPlace further
    pure (p.machine.setEntry found.directory found.name id)

/-- Removes the name of something that is no directory. -/
def removeName (path : Octets) : Work (Except SystemError Unit) :=
  request fun p ↦ do
    let found ← p.placeOf path
    match found.node? with
    | none => throw .missing
    | some id =>
      if p.machine.isDirectory id then throw .isDirectory
      else pure (p.machine.removeEntry found.directory found.name)

/-- Removes an empty directory. -/
def removeDirectory (path : Octets) : Work (Except SystemError Unit) :=
  request fun p ↦ do
    let found ← p.placeOf (Path.withoutSlashes path)
    match found.node? with
    | none => throw .missing
    | some id =>
      if !p.machine.isDirectory id then throw .notDirectory
      else if Path.base path = ['.'] then throw .invalidArgument
      else if p.machine.entries id ≠ [] then throw .notEmpty
      else pure (p.machine.removeEntry found.directory found.name)

def isInside (m : Machine) (outer : Nat) : (limit : Nat) → (id : Nat) → Bool
  | 0, _ => false
  | limit + 1, id =>
    id == outer || (match m.directory? id with
      | some (parent, _) => parent != id && isInside m outer limit parent
      | none => false)

/-- Gives something another name, which may have led to something else. -/
def rename (path other : Octets) : Work (Except SystemError Unit) :=
  request fun p ↦ do
    let m := p.machine
    let source ← p.placeOf (Path.withoutSlashes path)
    let target ← p.placeOf (Path.withoutSlashes other)
    match source.node?, target.node? with
    | none, _ => throw .missing
    | some id, found =>
      if m.isDirectory id ∧ isInside m id m.nodes.size target.directory then throw .invalidArgument
      match found with
      | some there =>
        if there = id then return m
        if m.isDirectory there ∧ !m.isDirectory id then throw .isDirectory
        if m.isDirectory id ∧ !m.isDirectory there then throw .notDirectory
        if m.entries there ≠ [] then throw .notEmpty
      | none => pure ()
      let moved := m.removeEntry source.directory source.name
      pure (moved.setEntry target.directory target.name id)

def setMode (id mode : Nat) : Work Unit := onMachine fun m ↦ m.modifyNode id fun n ↦ { n with mode }

/-- Sets when the content was changed last. -/
def setModified (id : Nat) (modified : Int) : Work Unit :=
  onMachine fun m ↦ m.modifyNode id fun n ↦ { n with modified }

def linkTarget? (p : Process) (path : Octets) : Except SystemError Octets := do
  let id ← p.node? path false
  match p.machine.body id with
  | .link target => pure target
  | _ => throw .invalidArgument

/-- Goes to a directory. -/
def enter (path : Octets) : Work (Except SystemError Unit) := do
  let p ← get
  match p.node? path with
  | .error cause => pure (.error cause)
  | .ok id =>
    if p.machine.isDirectory id then
      set { p with directory := id }
      pure (.ok ())
    else pure (.error .notDirectory)

/-- Permissions without those that new files do not get. -/
def masked (p : Process) (mode : Nat) : Nat := mode - (mode &&& p.mask)

end ProgressActions.Process
