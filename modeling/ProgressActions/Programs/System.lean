import ProgressActions.Process.Search
import ProgressActions.Programs.Files
import ProgressActions.Programs.Running

/-!
# The system and its users

Programs that show who works on which system, where programs are, and that send signals.
-/

namespace ProgressActions.Programs

/-- Refuses words of a program that works on none. -/
def withoutWords (name : Octets) (g : Given) : Job Unit :=
  match g.words with
  | [] => pure ()
  | extra :: _ => Job.extraOperand name extra

/-! ## Users -/

/-- The users of the system: their names with their own numbers and those of their groups. -/
def userTable : Job (List (Octets × Octets × Octets)) := do
  match ← liftM (Process.readFile "/etc/passwd".toList) with
  | .ok text =>
    pure ((Octets.records '\n' text).filterMap fun line ↦
      match Octets.splitAt ':' line with
      | user :: _ :: number :: group :: _ => some (user, number, group)
      | _ => none)
  | .error _ => pure []

def groupTable : Job (List (Octets × Octets)) := do
  match ← liftM (Process.readFile "/etc/group".toList) with
  | .ok text =>
    pure ((Octets.records '\n' text).filterMap fun line ↦
      match Octets.splitAt ':' line with
      | group :: _ :: number :: _ => some (number, group)
      | _ => none)
  | .error _ => pure []

/-- Shows the numbers and names of a user. -/
def identity : Program := fun name arguments ↦ do
  let usage : Usage :=
    { choices :=
        [{ key := "a" }, { key := "g", names := ["group"] }, { key := "G", names := ["groups"] },
         { key := "n", names := ["name"] }, { key := "r", names := ["real"] },
         { key := "u", names := ["user"] }, { key := "z", names := ["zero"] }, { key := "Z" }] }
  let given ← Job.understand usage name arguments
  let kinds := ["u", "g", "G"].filter given.has
  if 1 < kinds.length then Job.fail name "cannot print \"only\" of more than one choice".toList
  else if given.has "n" ∧ kinds = [] then
    Job.fail name "cannot print only names or real IDs in default format".toList
  else
    let users ← userTable
    let groups ← groupTable
    let words := if given.words = [] then ["root".toList] else given.words
    let isWell ← allWell words fun word ↦ do
      match users.find? fun (user, number, _) ↦ user == word || number == word with
      | none =>
        Job.complain name (Quoting.plain word ++ ": no such user".toList)
        pure false
      | some (user, number, group) =>
        let groupName := (groups.lookup group).getD group
        let shown (number text : Octets) : Octets := number ++ '(' :: text ++ [')']
        let line := match kinds with
          | ["u"] => if given.has "n" then user else number
          | [] => "uid=".toList ++ shown number user ++ " gid=".toList ++ shown group groupName ++
              " groups=".toList ++ shown group groupName
          | _ => if given.has "n" then groupName else group
        Job.put name (line ++ ['\n'])
        pure true
    Job.finish isWell

def whoami : Program := fun name arguments ↦ do
  withoutWords name (← Job.understand { choices := [] } name arguments)
  Job.put name "root\n".toList

def groups : Program := fun name arguments ↦ do
  let given ← Job.understand { choices := [] } name arguments
  if given.words = [] then Job.put name "root\n".toList
  else
    let users ← userTable
    let all ← groupTable
    Job.finish (← allWell given.words fun word ↦ do
      match users.find? (·.1 == word) with
      | none =>
        Job.complain name (Quoting.plain word ++ ": no such user".toList)
        pure false
      | some (user, _, group) =>
        Job.put name (user ++ " : ".toList ++ (all.lookup group).getD group ++ ['\n'])
        pure true)

def logname : Program := fun name arguments ↦ do
  withoutWords name (← Job.understand { choices := [] } name arguments)
  Job.fail name "no login name".toList

/-! ## The system -/

def uname : Program := fun name arguments ↦ do
  let usage : Usage :=
    { choices :=
        [{ key := "a", names := ["all"] }, { key := "s", names := ["kernel-name", "sysname"] },
         { key := "n", names := ["nodename"] }, { key := "r", names := ["kernel-release", "release"] },
         { key := "v", names := ["kernel-version"] }, { key := "m", names := ["machine"] },
         { key := "p", names := ["processor"] }, { key := "i", names := ["hardware-platform"] },
         { key := "o", names := ["operating-system"] }] }
  let given ← Job.understand usage name arguments
  withoutWords name given
  let all := given.has "a"
  let parts := [("s", "Linux"), ("n", "localhost"), ("r", "6.1.0"), ("v", "#1 SMP"), ("m", "x86_64"),
    ("p", "unknown"), ("i", "unknown"), ("o", "GNU/Linux")]
  let chosen := parts.filter fun (key, text) ↦
    given.has key || (all && text != "unknown") || (given.options = [] && key == "s")
  Job.put name (Octets.spaced (chosen.map (·.2.toList)) ++ ['\n'])

def arch : Program := fun name arguments ↦ do
  withoutWords name (← Job.understand { choices := [] } name arguments)
  Job.put name "x86_64\n".toList

def nproc : Program := fun name arguments ↦ do
  let usage : Usage := { choices := [{ key := "all" }, { key := "ignore", demand := .value }] }
  withoutWords name (← Job.understand usage name arguments)
  Job.put name "1\n".toList

def hostname : Program := fun name _ ↦ do
  match ← liftM (Process.readFile "/etc/hostname".toList) with
  | .ok text => Job.put name text
  | .error _ => Job.put name "localhost\n".toList

def tty : Program := fun name arguments ↦ do
  let usage : Usage := { failure := 2, choices := [{ key := "s", names := ["silent", "quiet"] }] }
  let given ← Job.understand usage name arguments
  if !given.has "s" then Job.put name "not a tty\n".toList
  Job.exit 1

/-! ## Programs and processes -/

def which : Program := fun name arguments ↦ do
  let showsAll := arguments.head? == some "-a".toList
  let words := if showsAll then arguments.drop 1 else arguments
  let p ← get
  let path := (p.environment.lookup "PATH".toList).getD "/usr/local/bin:/usr/bin:/bin".toList
  let isProgram (candidate : Octets) : Bool := match p.node? candidate with
    | .ok node => p.machine.isRegular node && p.machine.isExecutable node
    | .error _ => false
  let found := words.map fun word ↦
    let all := (Search.paths path word).filter isProgram
    if showsAll then all else all.take 1
  Job.put name (Octets.ended '\n' found.flatten)
  Job.finish (words ≠ [] && found.all (· != []))

def kill : Program := fun name arguments ↦ do
  let (signal?, words) := match arguments with
    | ['-', 's'] :: text :: rest => (Timeout.signal? text, rest)
    | ('-' :: c :: text) :: rest =>
      if c = '-' ∨ c = 'l' then (some Signal.term, arguments) else (Timeout.signal? (c :: text), rest)
    | _ => (some Signal.term, arguments)
  match words with
  | ['-', 'l'] :: rest =>
    let shown (word : Octets) : Octets := match (Text.natural? word).bind fun n ↦ Signal.ofNumber? n with
      | some signal => signal.shortName.toList
      | none => match Timeout.signal? word with
        | some signal => Text.numeral signal.number
        | none => word
    if rest = [] then Job.put name (Octets.spaced (Signal.all.map (·.shortName.toList)) ++ ['\n'])
    else Job.put name (Octets.ended '\n' (rest.map shown))
  | [] => Job.fail name "not enough arguments".toList
  | _ =>
    let isZero := arguments.head? == some "-0".toList
    Job.finish (← allWell words fun word ↦ do
      match Text.natural? word with
      | none =>
        Job.complain name ("failed to parse argument: ".toList ++ Quoting.plain word)
        pure false
      | some target =>
        let m := (← get).machine
        if !m.running.contains target then
          Job.complain name ("(".toList ++ word ++ "): No such process".toList)
          pure false
        else
          match signal? with
          | some signal =>
            if !isZero then
              liftM (Process.onMachine fun m ↦ { m with signals := m.signals ++ [(target, signal)] } : Work Unit)
          | none => pure ()
          pure true)

end ProgressActions.Programs
