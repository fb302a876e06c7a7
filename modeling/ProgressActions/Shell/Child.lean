import ProgressActions.Shell.Builtin.Table
import ProgressActions.Shell.Notice

/-!
# Children of a shell

A child works on a state of its own and leaves only what it has done to the machine. Children run one
after another, or wait beside the shell until somebody waits for them. A shell or a child of it may turn
into a program.
-/

namespace ProgressActions.Shell

/-! ## Ends of shells -/

namespace State

/-- Whether anything is to be done on a signal or in the end. -/
def hasTraps (s : State) : Bool := s.traps.any fun (_, text) ↦ !text.isEmpty

def ignored (s : State) : List Signal :=
  s.process.ignored ++ s.traps.filterMap fun (trigger, text) ↦ if text.isEmpty then trigger else none

end State

namespace Act

/-- Springs the traps of signals that have come. -/
def springTraps (v : Services) : Act Unit := do
  let s ← get
  if s.pending ≠ [] then
    let status := s.savedStatus.getD s.status
    set { s with pending := [], savedStatus := some status }
    for signal in s.pending do
      let now ← get
      if now.skip.isSome then set { now with pending := now.pending ++ [signal] }
      else
        match now.traps.lookup (some signal) with
        | some text =>
          if text ≠ [] then
            discard (v.evaluate {} text)
            if (← get).skip ≠ some (.function true) then setStatus status
        | none => pure ()
    modify ({ · with savedStatus := s.savedStatus })

/-- The status that a shell was told to end with, if it was. -/
def settle (halt : Halt) : Act Unit := do
  let s ← get
  set { s with
    savedStatus := none
    skip := none
    loops := 0
    isTracing := false
    status := if halt = Halt.left then s.savedStatus.getD s.status else s.status }

def conclude (v : Services) (outcome : Except Halt Unit) : Act Ending := do
  match outcome with
  | .error (.over ending) => pure ending
  | .error halt => do
    settle halt
    last
  | .ok () => last
where
  last : Act Ending := do
    let s ← get
    match s.traps.lookup none with
    | none => pure (.exited (s.status % 256))
    | some text =>
      set { s with
        traps := s.traps.filter (·.1 != none), savedStatus := some s.status, skip := none }
      match ← attempt (discard (v.evaluate {} text)) with
      | .error (.over ending) => pure ending
      | .error halt =>
        settle halt
        pure (.exited ((← get).status % 256))
      | .ok () => pure (.exited (s.status % 256))

/-! ## Children -/

def childState (id : Nat) (s : State) : State :=
  { s with
    process := { s.process with id, parent := s.process.id, ignored := s.ignored }
    traps := s.traps.filter fun (_, text) ↦ text.isEmpty
    companions := []
    pending := [] }

def runChild (v : Services) (act : Act Unit) (s : State) : Ending × Machine :=
  let whole : Act Ending := do
    let outcome ← attempt act
    let ending ← conclude v outcome
    runCompanions
    pure ending
  match whole.run s with
  | (.ok ending, last) => (ending, last.process.machine)
  | (.error _, last) => (.exited 2, last.process.machine)

def inChild (v : Services) (act : Act Unit) : Act Ending := do
  modify fun s ↦ { s with companions := s.companions.filter fun c ↦ !c.isWaitedFor }
  let id ← work Process.newProcess
  let s ← get
  let machine := s.process.machine
  let own := { s with process := { s.process with machine := {} } }
  set own
  let child := childState id own
  let (ending, last) := runChild v act { child with process := { child.process with machine } }
  setMachine (Process.ended id last)
  pure ending

/-- Lets something be done beside the shell. -/
def inBackground (v : Services) (act : Act Unit) : Act Unit := do
  let id ← work Process.newProcess
  let s ← get
  let child := childState id s
  let started :=
    { child with process :=
      { child.process with machine := {}, ignored := .int :: .quit :: child.process.ignored } }
  let quiet : Act Unit := do
    match ← work (Process.openFile "/dev/null".toList .reading) with
    | .ok file => onProcess (Process.setDescriptor 0 file)
    | .error _ => pure ()
    act
  let kept := s.companions.filter fun c ↦ !c.isWaitedFor
  let jobs := kept.map (·.job)
  let job := ((List.range (jobs.length + 1)).map (· + 1)).find? (!jobs.contains ·)
  let companion : Companion :=
    { id
      job := job.getD 1
      work := fun machine ↦ runChild v quiet { started with process := { started.process with machine } } }
  set { s with companions := kept ++ [companion], background := some id }

/-- Takes note of how children have ended, and yields the status of the last one. -/
def waitForAll (endings : List Ending) : Act Nat := do
  for ending in endings do
    match ending with
    | .killed signal => printError (notice signal)
    | .exited _ => pure ()
  let m := (← get).process.machine
  match m.deadline with
  | some moment => if moment ≤ m.slept then throw (.killed .term)
  | none => pure ()
  receiveAll
  pure ((endings.getLast?.map Ending.shellStatus).getD 0)

/-! ## Programs -/

def replace {α : Type} (v : Services) (path : Octets) (words : List Octets) : Act α := do
  let s ← get
  let name := words.headD []
  let own := { s with process := { s.process with machine := {} } }
  let process := { s.process with environment := s.environment, ignored := s.ignored }
  set own
  let first : SystemError := .missing
  let (outcome, last) := (Search.runFirst v.launch words first (Search.paths path name)).run process
  setMachine last.machine
  match outcome with
  | .ok ending => throw (.over ending)
  | .error cause =>
    complain (name ++ ": ".toList ++ refusal cause)
    setStatus (Search.refusalStatus cause)
    throw .ended

end Act

end ProgressActions.Shell
