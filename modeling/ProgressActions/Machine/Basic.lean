import ProgressActions.Machine.Error
import ProgressActions.Octets
import ProgressActions.Signal

/-!
# The file tree of a machine

Files, directories, links and devices are nodes, which are known by their numbers. Directories lead from
names to nodes and back to their parents. Opening a node yields an open file with a place to read and
write at; several descriptors may share it.
-/

namespace ProgressActions

inductive Body where
  | file (content : ByteArray)
  /-- A file that holds a program of the system. -/
  | program (name : Octets)
  | directory (parent : Nat) (entries : List (Octets × Nat))
  | link (target : Octets)
  /-- Takes everything and holds nothing. -/
  | null
  /-- Takes everything and holds zeros without end. -/
  | zero
  /-- Takes nothing and holds zeros without end. -/
  | full
  /-- Stands for what a descriptor of the process at hand leads to. -/
  | descriptor (number : Nat)
  /-- A device that is not connected. -/
  | absent
  /-- A pipe, or a stream that leads out of the machine. -/
  | stream (content : ByteArray)

/-- A node of the file tree. -/
structure Machine.Node where
  body : Body
  /-- The permissions. -/
  mode : Nat
  /-- When the content was changed last, in Unix seconds. -/
  modified : Int := 0

instance : Inhabited Machine.Node := ⟨{ body := .null, mode := 0 }⟩

structure OpenFile where
  node : Nat
  /-- Where the next octet is read or written. -/
  offset : Nat := 0
  reads : Bool := false
  writes : Bool := false
  /-- Whether everything is written to the end. -/
  appends : Bool := false

instance : Inhabited OpenFile := ⟨{ node := 0 }⟩

/-- What the processes of a machine share. -/
structure Machine where
  nodes : Array Machine.Node := #[{ body := .directory 0 [], mode := 0o755 }]
  opens : Array OpenFile := #[]
  /-- The number of the youngest process. -/
  lastProcess : Nat := 1
  /-- The numbers of the processes that have not ended. -/
  running : List Nat := [1]
  /-- The time on the clock, in Unix seconds. -/
  now : Int := 0
  /-- For how long processes have slept, in seconds. -/
  slept : Rat := 0
  /-- The moment of sleep at which processes are ended. -/
  deadline : Option Rat := none
  /-- Signals on their way, with the numbers of the processes that they are for. -/
  signals : List (Nat × Signal) := []

instance : Inhabited Machine := ⟨{}⟩

namespace Machine

/-- The node at the top of the file tree. -/
def root : Nat := 0

def node (m : Machine) (id : Nat) : Node := m.nodes.getD id default

def body (m : Machine) (id : Nat) : Body := (m.node id).body

/-- A machine with a further node, and the number of the node. -/
def add (m : Machine) (body : Body) (mode : Nat) : Nat × Machine :=
  (m.nodes.size, { m with nodes := m.nodes.push { body, mode, modified := m.now } })

def modifyNode (m : Machine) (id : Nat) (f : Node → Node) : Machine :=
  { m with nodes := m.nodes.modify id f }

/-- A machine in which a node has become something else. -/
def setBody (m : Machine) (id : Nat) (body : Body) : Machine :=
  m.modifyNode id fun n ↦ { n with body, modified := m.now }

/-- The parent of a directory and what it holds. -/
def directory? (m : Machine) (id : Nat) : Option (Nat × List (Octets × Nat)) :=
  match m.body id with
  | .directory parent entries => some (parent, entries)
  | _ => none

def isDirectory (m : Machine) (id : Nat) : Bool := (m.directory? id).isSome

/-- What a directory holds, the oldest entry first. -/
def entries (m : Machine) (id : Nat) : List (Octets × Nat) :=
  match m.directory? id with
  | some (_, entries) => entries
  | none => []

/-- A machine in which a name in a directory leads to a node, which is told its parent if it is a
directory. -/
def setEntry (m : Machine) (place : Nat) (name : Octets) (id : Nat) : Machine :=
  let placed := match m.directory? place with
    | some (parent, entries) =>
      let changed : List (Octets × Nat) :=
        if (entries.lookup name).isSome then
          entries.map fun (e : Octets × Nat) ↦ if e.1 = name then (name, id) else e
        else entries ++ [(name, id)]
      m.setBody place (.directory parent changed)
    | none => m
  placed.modifyNode id fun n ↦ match n.body with
    | .directory _ entries => { n with body := .directory place entries }
    | _ => n

/-- A machine in which a name in a directory leads nowhere. -/
def removeEntry (m : Machine) (place : Nat) (name : Octets) : Machine :=
  match m.directory? place with
  | some (parent, entries) => m.setBody place (.directory parent (entries.filter (·.1 != name)))
  | none => m

/-- A machine with a new node under a name in a directory, and the number of the node. -/
def create (m : Machine) (place : Nat) (name : Octets) (body : Body) (mode : Nat) : Nat × Machine :=
  let (id, next) := m.add body mode
  (id, next.setEntry place name id)

/-- How often the names of directories lead to a node. -/
def linkCount (m : Machine) (id : Nat) : Nat :=
  m.nodes.foldl (fun count n ↦ match n.body with
    | .directory _ entries => count + entries.countP (·.2 == id)
    | _ => count) 0

/-- The size that a node claims. -/
def size (m : Machine) (id : Nat) : Nat :=
  match m.body id with
  | .file content => content.size
  | .program _ => 35000
  | .directory _ _ => 4096
  | .link target => target.length
  | _ => 0

/-- Whether somebody may run a node. -/
def isExecutable (m : Machine) (id : Nat) : Bool := (m.node id).mode &&& 0o111 != 0

/-- Whether a node is a file, be it an ordinary one or a program. -/
def isRegular (m : Machine) (id : Nat) : Bool :=
  match m.body id with
  | .file _ => true
  | .program _ => true
  | _ => false

@[simp] theorem size_nodes_modifyNode (m : Machine) (id : Nat) (f : Node → Node) :
    (m.modifyNode id f).nodes.size = m.nodes.size := by
  simp [modifyNode]

@[simp] theorem size_nodes_add (m : Machine) (body : Body) (mode : Nat) :
    (m.add body mode).2.nodes.size = m.nodes.size + 1 := by
  simp [add]

theorem body_add (m : Machine) (body : Body) (mode : Nat) :
    (m.add body mode).2.body (m.add body mode).1 = body := by
  simp [add, Machine.body, Machine.node]

end Machine

end ProgressActions
