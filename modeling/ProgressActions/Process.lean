import ProgressActions.Launch.Place
import ProgressActions.Machine.Path

/-!
# Processes

A process works on a machine from a directory of its own, with its own variables and descriptors. Work
changes the process; a job is work that may end the process before all of it is done.
-/

namespace ProgressActions

/-- A process with the machine that it runs on. -/
structure Process where
  machine : Machine
  /-- The open files that descriptors lead to. -/
  descriptors : List (Nat × Nat) := []
  /-- The directory that paths start from. -/
  directory : Nat := Machine.root
  environment : Environment := []
  /-- The permissions that new files do not get. -/
  mask : Nat := 0o22
  /-- The signals that are of no effect. -/
  ignored : List Signal := []
  /-- The number of the process. -/
  id : Nat := 1
  /-- The number of the process that has started this one. -/
  parent : Nat := 0
  /-- How much the process gives way to others. -/
  niceness : Nat := 0

instance : Inhabited Process := ⟨{ machine := {} }⟩

abbrev Work := StateM Process

abbrev Job := ExceptT Ending Work

structure OpenMode where
  reads : Bool := false
  writes : Bool := false
  appends : Bool := false
  /-- Whether a file that is missing is made. -/
  creates : Bool := false
  /-- Whether the content is thrown away. -/
  truncates : Bool := false
  /-- Whether the file has to be new. -/
  exclusive : Bool := false

namespace OpenMode

def reading : OpenMode := { reads := true }

/-- For content that replaces what there is. -/
def replacing : OpenMode := { writes := true, creates := true, truncates := true }

/-- For content that goes behind what there is. -/
def extending : OpenMode := { writes := true, creates := true, appends := true }

end OpenMode

namespace Process

/-! ## Files -/

def onMachine (f : Machine → Machine) : Work Unit := modify fun p ↦ { p with machine := f p.machine }

def node? (p : Process) (path : Octets) (follows : Bool := true) : Except SystemError Nat :=
  p.machine.lookup follows p.directory path

/-- Opens a node, and yields the number of the open file. -/
def openNode (id : Nat) (mode : OpenMode) : Work Nat := do
  let p ← get
  let truncated := match p.machine.body id with
    | .file _ => if mode.truncates then p.machine.setBody id (.file .empty) else p.machine
    | _ => p.machine
  let file : OpenFile :=
    { node := id, reads := mode.reads, writes := mode.writes, appends := mode.appends }
  set { p with machine := { truncated with opens := truncated.opens.push file } }
  pure p.machine.opens.size

/-- Opens the file that a path leads to, and yields the number of the open file. -/
def openFile (path : Octets) (mode : OpenMode) (permissions : Nat := 0o666) :
    Work (Except SystemError Nat) := do
  let p ← get
  match p.machine.place true p.directory path with
  | .error e => pure (.error e)
  | .ok found =>
    match found.node? with
    | none =>
      if !mode.creates then pure (.error .missing)
      else
        let allowed := permissions - (permissions &&& p.mask)
        let (id, machine) := p.machine.create found.directory found.name (.file .empty) allowed
        set { p with machine }
        .ok <$> openNode id mode
    | some id =>
      if mode.creates && mode.exclusive then pure (.error .alreadyExists)
      else
        match p.machine.body id with
        | .directory _ _ =>
          if mode.writes || mode.creates then pure (.error .isDirectory) else .ok <$> openNode id mode
        | .absent => pure (.error .noDevice)
        | .descriptor n =>
          match p.descriptors.lookup n with
          | some file =>
            let target := (p.machine.opens.getD file default).node
            match p.machine.body target with
            | .stream _ => pure (.ok file)
            | .directory _ _ =>
              if mode.writes then pure (.error .isDirectory) else .ok <$> openNode target mode
            | _ => .ok <$> openNode target mode
          | none => pure (.error .missing)
        | _ => .ok <$> openNode id mode

/-! ## Open files -/

/-- The content of a node from a place on, at most so many octets of it. -/
def contentFrom (m : Machine) (id offset : Nat) (limit : Option Nat) : Except SystemError ByteArray :=
  let cut : ByteArray → ByteArray := fun content ↦
    content.extract offset (match limit with
      | some n => min content.size (offset + n)
      | none => content.size)
  match m.body id with
  | .file content => .ok (cut content)
  | .stream content => .ok (cut content)
  | .program name => .ok (cut (Octets.toByteArray ("\x7fELF".toList ++ name)))
  | .directory _ _ => .error .isDirectory
  | .zero => .ok ⟨Array.replicate (limit.getD 65536) 0⟩
  | .full => .ok ⟨Array.replicate (limit.getD 65536) 0⟩
  | _ => .ok .empty

/-- Reads from an open file, at most so many octets. -/
def readOpen (file : Nat) (limit : Option Nat := none) : Work (Except SystemError Octets) := do
  let p ← get
  match p.machine.opens[file]? with
  | none => pure (.error .badDescriptor)
  | some state =>
    if !state.reads then pure (.error .badDescriptor)
    else
      match contentFrom p.machine state.node state.offset limit with
      | .error e => pure (.error e)
      | .ok content =>
        onMachine fun m ↦
          { m with opens := m.opens.modify file fun o ↦ { o with offset := o.offset + content.size } }
        pure (.ok (Octets.ofByteArray content))

/-- Content in which a piece stands at an offset. A gap in front of it is filled with zeros. -/
def overwrite (content : ByteArray) (offset : Nat) (piece : ByteArray) : ByteArray :=
  if offset = content.size then content ++ piece
  else
    let front := content.extract 0 offset
    let gap : ByteArray := ⟨Array.replicate (offset - content.size) 0⟩
    front ++ gap ++ piece ++ content.extract (offset + piece.size) content.size

/-- A stream with a piece more at its end. -/
def grown (piece : ByteArray) (n : Machine.Node) : Machine.Node :=
  match n.body with
  | .stream content => { n with body := .stream (content ++ piece) }
  | _ => n

def writeOpen (file : Nat) (text : Octets) : Work (Except SystemError Unit) := do
  let p ← get
  match p.machine.opens[file]? with
  | none => pure (.error .badDescriptor)
  | some state =>
    if !state.writes then pure (.error .badDescriptor)
    else
      let piece := Octets.toByteArray text
      let advance : Nat → Machine → Machine := fun place m ↦
        { m with opens := m.opens.modify file fun o ↦ { o with offset := place } }
      match p.machine.body state.node with
      | .file content =>
        let place := if state.appends then content.size else state.offset
        let written := p.machine.setBody state.node (.file (overwrite content place piece))
        set { p with machine := advance (place + piece.size) written }
        pure (.ok ())
      | .stream _ =>
        set { p with machine := p.machine.modifyNode state.node (grown piece) }
        pure (.ok ())
      | .full => pure (if text = [] then .ok () else .error .noSpace)
      | .directory _ _ => pure (.error .badDescriptor)
      | _ => pure (.ok ())

/-- Reads from an open file as much as is wanted of what there is. -/
def readOpenWhile (file : Nat) (wanted : Octets → Nat) : Work (Except SystemError Octets) := do
  let place := ((← get).machine.opens.getD file default).offset
  match ← readOpen file with
  | .error e => pure (.error e)
  | .ok content =>
    let length := wanted content
    onMachine fun m ↦
      { m with opens := m.opens.modify file fun o ↦ { o with offset := place + length } }
    pure (.ok (content.take length))

/-! ## Descriptors -/

/-- The open file that a descriptor leads to. -/
def openOf? (p : Process) (descriptor : Nat) : Option Nat := p.descriptors.lookup descriptor

/-- A process in which a descriptor leads to an open file. -/
def setDescriptor (descriptor file : Nat) (p : Process) : Process :=
  { p with descriptors := (descriptor, file) :: p.descriptors.filter (·.1 != descriptor) }

/-- A process in which a descriptor leads nowhere. -/
def closeDescriptor (descriptor : Nat) (p : Process) : Process :=
  { p with descriptors := p.descriptors.filter (·.1 != descriptor) }

@[simp] theorem openOf?_setDescriptor (descriptor file : Nat) (p : Process) :
    (p.setDescriptor descriptor file).openOf? descriptor = some file := by
  simp [setDescriptor, openOf?]

@[simp] theorem openOf?_closeDescriptor (descriptor : Nat) (p : Process) :
    (p.closeDescriptor descriptor).openOf? descriptor = none := by
  simp only [closeDescriptor, openOf?, List.lookup_eq_none_iff, List.mem_filter]
  intro entry h
  have hne : entry.1 ≠ descriptor := by simpa using h.2
  simpa using Ne.symm hne

def read (descriptor : Nat) (limit : Option Nat := none) : Work (Except SystemError Octets) := do
  match (← get).openOf? descriptor with
  | some file => readOpen file limit
  | none => pure (.error .badDescriptor)

/-- Gives back the last octets that have been read from a descriptor. -/
def unread (descriptor count : Nat) : Work Unit := do
  match (← get).openOf? descriptor with
  | some file =>
    onMachine fun m ↦
      { m with opens := m.opens.modify file fun o ↦ { o with offset := o.offset - count } }
  | none => pure ()

def write (descriptor : Nat) (text : Octets) : Work (Except SystemError Unit) := do
  match (← get).openOf? descriptor with
  | some file => writeOpen file text
  | none => pure (.error .badDescriptor)

/-- Opens a pipe, and yields the open files to read from and to write to. -/
def openPipe (content : Octets := []) : Work (Nat × Nat) := do
  let p ← get
  let (id, machine) := p.machine.add (.stream (Octets.toByteArray content)) 0o600
  set { p with machine }
  let source ← openNode id { reads := true }
  let sink ← openNode id { writes := true }
  pure (source, sink)

/-- Everything that a file holds. -/
def readFile (path : Octets) : Work (Except SystemError Octets) := do
  match ← openFile path .reading with
  | .ok file => readOpen file
  | .error e => pure (.error e)

/-! ## Processes inside of processes -/

def newProcess : Work Nat := do
  let p ← get
  let id := p.machine.lastProcess + 1
  set { p with machine := { p.machine with lastProcess := id, running := id :: p.machine.running } }
  pure id

/-- Takes note that a process has ended. -/
def ended (id : Nat) (m : Machine) : Machine := { m with running := m.running.erase id }

/-- Does work in a process of its own: what it does to the machine stays, and all else is as before. -/
def inChild {α : Type} (change : Process → Process) (work : Work α) : Work α := do
  let id ← newProcess
  let before ← get
  modify fun p ↦ { change p with id, parent := before.id }
  let result ← work
  modify fun p ↦ { before with machine := ended id p.machine }
  pure result

end Process

namespace Job

/-- Ends the process with a status. -/
def exit {α : Type} (status : Nat) : Job α := throw (.exited status)

/-- Writes to the standard output. What cannot be written is lost. -/
def print (text : Octets) : Job Unit := discard (liftM (Process.write 1 text) : Job _)

/-- Writes to the standard error. -/
def printError (text : Octets) : Job Unit := discard (liftM (Process.write 2 text) : Job _)

def run (job : Job Unit) : Work Ending := do
  match ← ExceptT.run job with
  | .ok () => pure (.exited 0)
  | .error ending => pure ending

end Job

/-- A program does its job with the words of a command line, its own name in front. -/
abbrev Program := (name : Octets) → (arguments : List Octets) → Job Unit

/-- A way to run the program that a path leads to in the process at hand. Its words begin with the name
under which it is known to itself. -/
abbrev Launcher := (path : Octets) → (words : List Octets) → Work (Except SystemError Ending)

end ProgressActions
