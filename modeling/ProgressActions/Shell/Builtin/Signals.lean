import ProgressActions.Shell.Builtin.Basic
import ProgressActions.Shell.Notice

/-!
# Commands of a shell about signals and companions

They send signals, say what is to be done when one comes, and wait for processes that run beside the
shell. A signal that nobody catches ends the process that it is for.
-/

namespace ProgressActions.Shell

/-- Signals that leave a process alone unless it asks for them. -/
def isHarmless (signal : Signal) : Bool :=
  [Signal.chld, .cont, .urg, .winch, .stop, .tstp, .ttin, .ttou].contains signal

namespace Act

/-- Lets a signal come to the shell: a trap says what is to be done, or the shell ends. -/
def receive (signal : Signal) : Act Unit := do
  let s ← get
  match if signal = .kill ∨ signal = .stop then none else s.traps.lookup (some signal) with
  | some [] => pure ()
  | some _ => if !s.pending.contains signal then set { s with pending := s.pending ++ [signal] }
  | none =>
    if !isHarmless signal ∧ !s.process.ignored.contains signal then throw (.killed signal)

def receiveAll : Act Unit := do
  let p := (← get).process
  let own := p.machine.signals.filter (·.1 == p.id)
  if own ≠ [] then
    setMachine { p.machine with signals := p.machine.signals.filter (·.1 != p.id) }
    for (_, signal) in own do receive signal

def endCompanion (id : Nat) (ending : Ending) : Act Unit :=
  modify fun s ↦
    let noted : Companion → Companion := fun c ↦ if c.id = id then { c with ending := some ending } else c
    { s with
      companions := s.companions.map noted
      process := { s.process with machine := Process.ended id s.process.machine } }

def runCompanion (c : Companion) : Act Unit := do
  let (ending, machine) := c.work (← get).process.machine
  setMachine machine
  endCompanion c.id ending

def runCompanions : Act Unit := do
  for c in (← get).companions do
    if c.ending.isNone then runCompanion c

end Act

namespace Builtin

/-! ## Sending signals -/

/-- What a word names: a signal, by its number or by its name without `SIG`, or no signal by zero. -/
def signalOrNone? (word : Octets) : Option (Option Signal) :=
  match Text.natural? word with
  | some 0 => some none
  | some n => (Signal.ofNumber? n).map some
  | none => (Signal.all.find? fun s ↦ s.shortName.toList == word.map Char.toUpper).map some

/-- The companion of a job, by a percent sign and the number of the job. -/
def job? (s : State) (word : Octets) : Option Companion :=
  match word with
  | '%' :: rest =>
    match Text.natural? rest with
    | some n => s.companions.find? (·.job == n)
    | none =>
      match rest with
      | ['-'] => (s.companions.dropLast.getLast?).or s.companions.getLast?
      | _ => s.companions.getLast?
  | _ => none

def send (signal? : Option Signal) (target : Nat) : Act Bool := do
  let s ← get
  if target = s.process.id then
    match signal? with
    | some signal => Act.receive signal
    | none => pure ()
    pure true
  else
    match s.companions.find? (·.id == target) with
    | some c =>
      match signal?, c.ending with
      | some signal, none =>
        if !isHarmless signal then Act.endCompanion target (.killed signal)
        pure true
      | _, none => pure true
      | _, some _ => pure false
    | none =>
      if s.process.machine.running.contains target then
        match signal? with
        | some signal =>
          Act.setMachine { s.process.machine with
            signals := s.process.machine.signals ++ [(target, signal)] }
        | none => pure ()
        pure true
      else pure false

/-- Sends a signal to processes and jobs, and tells whether all are there. -/
def sendAll (signal? : Option Signal) : List Octets → Act Nat
  | [] => pure 0
  | word :: rest => do
    let s ← get
    let isThere ← match word with
      | '%' :: _ =>
        match job? s word with
        | some c => send signal? c.id
        | none => Act.fail ("No such job: ".toList ++ word)
      | '-' :: digits =>
        discard (Act.number digits)
        pure false
      | _ =>
        let n ← Act.number word
        if n = 0 then send signal? s.process.id else send signal? n
    if !isThere then Act.complain "No such process\n".toList
    let others ← sendAll signal? rest
    pure (if isThere then others else 1)

/-- The complaint about missing words of `kill`. -/
def killUsage : Octets :=
  ("Usage: kill [-s sigspec | -signum | -sigspec] [pid | job]... or\n" ++
    "kill -l [exitstatus]").toList

def lateNames : List String :=
  ["32", "33", "RTMIN"] ++ (List.range 15).map (fun n ↦ "RTMIN+" ++ toString (n + 1)) ++
    (List.range 14).map (fun n ↦ "RTMAX-" ++ toString (14 - n)) ++ ["RTMAX"]

def nameSignals : List Octets → Act Nat
  | [] => do
    let names := "0" :: Signal.all.map Signal.shortName ++ lateNames
    Act.print (names.flatMap fun name ↦ name.toList ++ ['\n'])
    pure 0
  | word :: _ => do
    let n ← Act.number word
    let number := if n > 128 then n - 128 else n
    match ((Signal.all.map Signal.shortName) ++ lateNames)[number - 1]? with
    | some name =>
      if number = 0 then Act.fail ("invalid signal number or exit status: ".toList ++ word)
      Act.print (name.toList ++ ['\n'])
      pure 0
    | none => Act.fail ("invalid signal number or exit status: ".toList ++ word)

def kill : Builtin := fun _ arguments ↦ do
  if arguments = [] then Act.fail killUsage
  let direct? := match arguments with
    | ('-' :: name) :: _ => signalOrNone? name
    | _ => none
  match direct? with
  | some signal? =>
    if arguments.length = 1 then Act.fail killUsage
    sendAll signal? (arguments.drop 1)
  | none =>
    let (found, words) ← options ['l'] ['s'] (arguments.length + 1) arguments
    let chosen ← match (found.filter (·.1 == 's')).getLast? with
      | some (_, name) =>
        match signalOrNone? name with
        | some signal? => pure (some signal?)
        | none => Act.fail ("invalid signal number or name: ".toList ++ name)
      | none => pure none
    if found.any (·.1 == 'l') then
      if chosen.isSome ∧ words ≠ [] then Act.fail killUsage
      nameSignals words
    else
      if words = [] then Act.fail killUsage
      sendAll (chosen.getD (some .term)) words

/-! ## Traps -/

/-- The trigger that a word names: a signal, or the end of the shell. -/
def trigger? (word : Octets) : Option Trigger :=
  if word.map Char.toUpper = "EXIT".toList then some none else signalOrNone? word

def triggerName : Trigger → Octets
  | some signal => signal.shortName.toList
  | none => "EXIT".toList

def setTraps (text : Option Octets) : List Octets → Act Nat
  | [] => pure 0
  | word :: rest => do
    match trigger? word with
    | none =>
      Act.printError ("trap: ".toList ++ word ++ ": bad trap\n".toList)
      pure 1
    | some trigger =>
      modify fun s ↦
        let others := s.traps.filter (·.1 != trigger)
        { s with traps := match text with
          | some text => (trigger, text) :: others
          | none => others }
      setTraps text rest

def sortedTraps (s : State) : List (Trigger × Octets) :=
  (none :: Signal.all.map some).filterMap fun trigger ↦
    (s.traps.lookup trigger).map fun text ↦ (trigger, text)

/-- Says what to do on signals and in the end, or tells what has been said. -/
def trap : Builtin := fun _ arguments ↦ do
  match ← withoutOptions arguments with
  | [] =>
    Act.print ((sortedTraps (← get)).flatMap fun (trigger, text) ↦
      "trap -- ".toList ++ quote text ++ [' '] ++ triggerName trigger ++ ['\n'])
    pure 0
  | [word] => setTraps none [word]
  | text :: words =>
    if text.all Char.isDigit ∧ (signalOrNone? text).isSome then setTraps none (text :: words)
    else setTraps (if text = ['-'] then none else some text) words

/-! ## Companions -/

/-- Takes note that somebody has waited for companions. -/
def markWaitedFor (isMeant : Companion → Bool) : Act Unit :=
  modify fun s ↦
    let noted : Companion → Companion := fun c ↦ if isMeant c then { c with isWaitedFor := true } else c
    { s with companions := s.companions.map noted }

/-- Waits for companions in order, and yields the status of the last one. -/
def waitFor : (status : Nat) → List Octets → Act Nat
  | status, [] => pure status
  | _, word :: rest => do
    let s ← get
    let found ← match word with
      | '%' :: _ =>
        match job? s word with
        | some c => pure (some c)
        | none => Act.fail ("No such job: ".toList ++ word)
      | _ => do
        let n ← Act.number word
        pure (s.companions.find? (·.id == n))
    match found with
    | none => waitFor 127 rest
    | some c =>
      if c.ending.isNone then Act.runCompanion c
      let ending := ((← get).companions.find? (·.id == c.id)).bind (·.ending)
      match ending.bind Ending.signal? with
      | some signal => if !c.isWaitedFor then Act.printError (notice signal)
      | none => pure ()
      markWaitedFor (·.id == c.id)
      Act.receiveAll
      waitFor ((ending.map Ending.shellStatus).getD 127) rest

/-- Waits for companions, for all of them if none is named. -/
def wait : Builtin := fun _ arguments ↦ do
  match ← withoutOptions arguments with
  | [] =>
    Act.runCompanions
    markWaitedFor fun _ ↦ true
    Act.receiveAll
    pure 0
  | words => waitFor 127 words

def conditionOf (c : Companion) : Octets :=
  match c.ending with
  | none => "Running".toList
  | some (.exited 0) => "Done".toList
  | some (.exited n) => "Done(".toList ++ Text.numeral n ++ [')']
  | some (.killed signal) => (signalWords signal).toList

/-- Tells about companions, the youngest first. Those that have ended are forgotten. -/
def jobs : Builtin := fun _ arguments ↦ do
  let (found, _) ← flags "lp" arguments
  let listed := (← get).companions.reverse
  let line : Companion × Nat → Octets := fun (c, place) ↦
    if found.contains 'p' then Text.numeral c.id ++ ['\n']
    else
      let mark := if place = 0 then '+' else if place = 1 then '-' else ' '
      let id := if found.contains 'l' then Text.numeral c.id ++ [' '] else []
      let words := conditionOf c
      ['['] ++ Text.numeral c.job ++ [']', ' ', mark, ' '] ++ id ++ words ++
        List.replicate (27 - words.length) ' ' ++ ['\n']
  Act.print (listed.zipIdx.flatMap line)
  modify fun s ↦ { s with companions := s.companions.filter (·.ending.isNone) }
  pure 0

end Builtin

end ProgressActions.Shell
