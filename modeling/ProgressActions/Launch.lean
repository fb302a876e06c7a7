import ProgressActions.Launch.Place
import ProgressActions.Machine.Standard
import ProgressActions.Programs.Table
import ProgressActions.Text.Utf8

/-!
# Launching commands

The place at which the program itself launches commands: a site, with a machine, a directory and
variables. What a command writes is collected, and what it does to the machine stays.
-/

namespace ProgressActions.Launch

/-! ## Files with programs -/

/-- The words in front of those of a script, if its first line names a program for it. -/
def interpreter? (content : ByteArray) : Option (List Octets) :=
  match Octets.ofByteArray (content.extract 0 256) with
  | '#' :: '!' :: rest =>
    let isBlank : Char → Bool := fun c ↦ c == ' ' || c == '\t'
    let line := (rest.takeWhile (· != '\n')).dropWhile isBlank
    let path := line.takeWhile (!isBlank ·)
    let argument := (line.drop path.length).dropWhile isBlank
    let trimmed := (argument.reverse.dropWhile isBlank).reverse
    if path = [] then none else some (if trimmed = [] then [path] else [path, trimmed])
  | _ => none

/-- Runs the program in a file. Programs that launch others are followed to a limited depth. -/
def run : (depth : Nat) → Launcher
  | 0 => fun _ _ ↦ pure (.error .tooManyLinks)
  | depth + 1 => fun path words ↦ do
    let p ← get
    match p.node? path with
    | .error e => pure (.error e)
    | .ok id =>
      if !p.machine.isExecutable id then pure (.error .accessDenied)
      else
        match p.machine.body id with
        | .program name =>
          match Programs.ofName? (run depth) name with
          | some program => .ok <$> Job.run (program (words.headD []) (words.drop 1))
          | none => pure (.error .notExecutable)
        | .file content =>
          match interpreter? content with
          | some (interpreter :: argument) =>
            run depth interpreter (interpreter :: argument ++ path :: words.drop 1)
          | _ => pure (.error .notExecutable)
        | _ => pure (.error .accessDenied)

/-- How deeply programs launch others. -/
def maxDepth : Nat := 60

/-! ## Commands -/

structure Site where
  machine : Machine := .standard Programs.names
  /-- The directory that paths start from. -/
  directory : Nat := Machine.root
  /-- The variables that every command finds. -/
  environment : Environment := []

instance : Inhabited Site := ⟨{}⟩

namespace Site

/-- A site in a new directory with files under their paths. -/
def withFiles (s : Site) (directory : String) (files : List (String × List UInt8)) : Site :=
  let made := s.machine.addDirectory directory
  match made.lookup true Machine.root directory.toList with
  | .error _ => s
  | .ok id =>
    let filled := files.foldl (fun m (path, content) ↦
      let names := Path.names (Octets.ofBytes (Text.bytes path.toList))
      m.addFile id (.file ⟨content.toArray⟩) 0o644 names) made
    { s with machine := filled, directory := id }

/-- The process that a command is to be, with an empty input and with streams for its output. -/
def process (c : Command) (s : Site) : (Nat × Nat) × Process :=
  let start : Process :=
    { machine := s.machine, directory := s.directory, environment := c.environment, parent := 1 }
  let opening : Work (Nat × Nat) := do
    let id ← Process.newProcess
    let input ← Process.openNode (((← get).node? "/dev/null".toList).toOption.getD 0) .reading
    let (out, outSink) ← Process.openPipe
    let (err, errSink) ← Process.openPipe
    modify fun p ↦ { p with id, descriptors := [(0, input), (1, outSink), (2, errSink)] }
    pure (out, err)
  opening.run start

/-- A command finds its own variables, and nothing else of the site's. -/
@[simp] theorem environment_process (c : Command) (s : Site) :
    (s.process c).2.environment = c.environment := rfl

/-- What has been written to a stream. -/
def collected (m : Machine) (source : Nat) : Octets :=
  match m.body (m.opens.getD source default).node with
  | .stream content => Octets.ofByteArray content
  | _ => []

/-- Tries paths one after another, and yields how the first program that can be run ends. -/
def tryAll (words : List Octets) : (cause : SystemError) → List Octets → Work (Except SystemError Ending)
  | cause, [] => pure (.error cause)
  | cause, path :: rest => do
    match ← run maxDepth path words with
    | .ok ending => pure (.ok ending)
    | .error .accessDenied => tryAll words .accessDenied rest
    | .error e => if e = .missing ∨ e = .notDirectory then tryAll words cause rest else pure (.error e)

/-- Runs the program of a command: under a path, or in one of the directories of the command's path. -/
def runProgram (c : Command) : Work (Except SystemError Ending) :=
  let words := c.program :: c.arguments
  if c.program.contains '/' then run maxDepth c.program words
  else if c.program = [] then pure (.error .missing)
  else
    let path := (c.environment.lookup "PATH".toList).getD Search.usualPath
    tryAll words .missing (Search.candidates path c.program)

def launch (c : Command) (s : Site) : Execution × Site :=
  let ((out, err), p) := s.process c
  let (outcome, last) := (runProgram c).run p
  let m := last.machine
  ({ stdout := collected m out, stderr := collected m err, outcome },
    { s with machine := { m with opens := #[], signals := [], deadline := none } })

instance : Place Site where
  environment := environment
  launch := launch

/-- Carries out a command with the variables of a site. -/
def command (s : Site) (name : String) (program : Octets) (arguments : List Octets) : CommandReport × Site :=
  Command.carryOut name { program, arguments, environment := s.environment } s

end Site

end ProgressActions.Launch
