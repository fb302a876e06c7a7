import ProgressActions.Programs.Files

/-!
# Copying and moving files

`cp` copies files and whole directories, and `mv` gives them other names. Into a directory, things are put
under their own names.
-/

namespace ProgressActions.Programs

namespace Copying

def choices : List Choice :=
  [{ key := "b" }, { key := "backup", demand := .attached }, { key := "f", names := ["force"] },
   { key := "i", names := ["interactive"] }, { key := "n", names := ["no-clobber"] },
   { key := "S", names := ["suffix"], demand := .value },
   { key := "t", names := ["target-directory"], demand := .value },
   { key := "T", names := ["no-target-directory"] }, { key := "u" },
   { key := "update", demand := .attached }, { key := "v", names := ["verbose"] },
   { key := "strip-trailing-slashes" }, { key := "Z" }]

def copyUsage : Usage :=
  { choices := choices ++
      [{ key := "a", names := ["archive"] }, { key := "d" }, { key := "H" },
       { key := "L", names := ["dereference"] }, { key := "l", names := ["link"] },
       { key := "P", names := ["no-dereference"] }, { key := "p" },
       { key := "preserve", demand := .attached }, { key := "no-preserve", demand := .value },
       { key := "parents" }, { key := "R" }, { key := "r", names := ["recursive"] },
       { key := "s", names := ["symbolic-link"] }, { key := "x", names := ["one-file-system"] },
       { key := "attributes-only" }, { key := "copy-contents" }, { key := "reflink", demand := .attached },
       { key := "remove-destination" }, { key := "sparse", demand := .value }] }

def moveUsage : Usage := { choices := choices ++ [{ key := "no-copy" }] }

def isDeep (g : Given) : Bool := g.has "r" || g.has "R" || g.has "a"

def keepsLinks (g : Given) (isNamed : Bool) : Bool :=
  match g.last? ["L", "P", "d", "a", "H"] with
  | some "L" => false
  | some "H" => !isNamed
  | some _ => true
  | none => isDeep g

/-- Whether permissions and times are copied, too. -/
def keepsAttributes (g : Given) : Bool := g.has "a" || g.has "p" || g.has "preserve"

/-- How something that exists already is dealt with: it is replaced, left, or left with a complaint. -/
inductive Clash where
  | replace
  | skip
  | refuse
  deriving DecidableEq, Repr

/-- What is to be done about something that exists already. -/
def clash (name : Octets) (g : Given) (source target : Nat) (path : Octets) : Job Clash := do
  let m := (← get).machine
  let isNewer := (m.node target).modified < (m.node source).modified
  match g.last? ["i", "n", "f", "u", "update"] with
  | some "n" => pure (if name = "mv".toList then .refuse else .skip)
  | some "i" =>
    let yes ← isAffirmed (name ++ ": overwrite ".toList ++ Quoting.always path ++ ['?'])
    pure (if yes then .replace else .refuse)
  | some "u" => pure (if isNewer then .replace else .skip)
  | some "update" =>
    match g.value? "update" with
    | some kind =>
      pure (if kind = "all".toList then .replace else if kind = "none".toList then .skip
        else if isNewer then .replace else .skip)
    | none => pure (if isNewer then .replace else .skip)
  | _ => pure .replace

def report (source path : Octets) : Octets := Quoting.always source ++ " -> ".toList ++ Quoting.always path

def nodeAt? (p : Process) (follows : Bool) (path : Octets) : Option Nat := (p.node? path follows).toOption

def leadsToDirectory (p : Process) (path : Octets) : Bool :=
  ((nodeAt? p true path).map p.machine.isDirectory).getD false

def copyContent (name : Octets) (g : Given) (source path : Octets) (id : Nat) : Job Bool := do
  let p ← get
  let content ← match p.machine.body id with
    | .descriptor _ => liftM (Process.readFile source)
    | _ => pure ((Process.contentFrom p.machine id 0 none).map Octets.ofByteArray)
  match content with
  | .error cause =>
    Job.complain name (Job.refusal ("error reading ".toList ++ Quoting.always source) cause)
    pure false
  | .ok text =>
    let mode := (p.machine.node id).mode
    let isNew := (nodeAt? p true path).isNone
    let opened ← liftM (Process.openFile path .replacing (mode &&& 0o777))
    match opened with
    | .error cause =>
      let verb := if isNew then "cannot create regular file " else "cannot open "
      let shownCause : SystemError := if isNew ∧ path.getLast? = some '/' then .notDirectory else cause
      Job.complain name (Job.refusal (verb.toList ++ Quoting.always path) shownCause)
      pure false
    | .ok sink =>
      match ← liftM (Process.writeOpen sink text) with
      | .error cause =>
        Job.complain name (Job.refusal ("error writing ".toList ++ Quoting.always path) cause)
        pure false
      | .ok () =>
        let target := ((← get).machine.opens.getD sink default).node
        if keepsAttributes g then
          liftM (Process.setMode target mode)
          liftM (Process.setModified target (p.machine.node id).modified)
        pure true

def copy (name : Octets) (g : Given) : (limit : Nat) → (isNamed : Bool) → (source path : Octets) → Job Bool
  | 0, _, _, _ => pure true
  | limit + 1, isNamed, source, path => do
    let p ← get
    let asLink := keepsLinks g isNamed
    match p.node? source (!asLink) with
    | .error cause =>
      Job.complain name (Job.refusal ("cannot stat ".toList ++ Quoting.always source) cause)
      pure false
    | .ok id =>
      let there := nodeAt? p (!asLink) path
      let shownSource := Quoting.always source
      let shown := Quoting.always path
      let fail (text : Octets) : Job Bool := do
        Job.complain name text
        pure false
      let isDirectory := p.machine.isDirectory id
      if isDirectory ∧ !isDeep g then
        fail ("-r not specified; omitting directory ".toList ++ Quoting.always source)
      else if there = some id ∧ !isDirectory ∧ !g.has "l" then
        fail (shownSource ++ " and ".toList ++ shown ++ " are the same file".toList)
      else
        let targetIsDirectory := (there.map p.machine.isDirectory).getD false
        if isDirectory then
          let place := p.machine.place true p.directory (Path.withoutSlashes path)
          let isWithin := match place with
            | .ok found => Process.isInside p.machine id p.machine.nodes.size found.directory
            | .error _ => false
          if isWithin then
            fail ("cannot copy a directory, ".toList ++ shownSource ++ ", into itself, ".toList ++ shown)
          else if there.isSome ∧ !targetIsDirectory then
            fail ("cannot overwrite non-directory ".toList ++ shown ++ " with directory ".toList ++ shownSource)
          else
            let made ← if there.isSome then pure true
              else
                attempt name (Process.makeDirectory path (p.masked ((p.machine.node id).mode ||| 0o700)))
                  ("cannot create directory ".toList ++ shown)
            if !made then pure false
            else
              if there.isNone ∧ g.has "v" then Job.put name (report source path ++ ['\n'])
              let names := (p.machine.entries id).map (·.1)
              let isWell ← allWell names fun entry ↦
                copy name g limit false (Path.join source entry) (Path.join path entry)
              if keepsAttributes g then
                match nodeAt? (← get) true path with
                | some new => liftM (Process.setMode new (p.machine.node id).mode)
                | none => pure ()
              pure isWell
        else if targetIsDirectory then
          fail ("cannot overwrite directory ".toList ++ shown ++ " with non-directory".toList)
        else
          let verdict ← match there with
            | some target => clash name g id target path
            | none => pure .replace
          if verdict ≠ .replace then pure (verdict = .skip)
          else
            let done ←
              if g.has "s" ∨ g.has "l" then
                if there.isSome ∧ (g.has "f" ∨ g.has "remove-destination") then
                  discard (liftM (Process.removeName path) : Job _)
                if g.has "s" then
                  attempt name (Process.makeLink source path)
                    ("cannot create symbolic link ".toList ++ shown ++ " to ".toList ++ shownSource)
                else
                  attempt name (Process.addName (!asLink) source path)
                    ("cannot create hard link ".toList ++ shown ++ " to ".toList ++ shownSource)
              else
                match p.machine.body id with
                | .link target =>
                  if (nodeAt? p false path).isSome then discard (liftM (Process.removeName path) : Job _)
                  attempt name (Process.makeLink target path)
                    ("cannot create symbolic link ".toList ++ shown)
                | _ =>
                  let dangles := (nodeAt? p false path).isSome && (nodeAt? p true path).isNone
                  if dangles ∧ !g.has "f" ∧ !g.has "remove-destination" then
                    fail ("not writing through dangling symlink ".toList ++ shown)
                  else
                    if dangles then discard (liftM (Process.removeName path) : Job _)
                    copyContent name g source path id
            if done ∧ g.has "v" then Job.put name (report source path ++ ['\n'])
            pure done

def move (name : Octets) (g : Given) (source path : Octets) : Job Bool := do
  let p ← get
  let shownSource := Quoting.always source
  let shown := Quoting.always path
  let fail (text : Octets) : Job Bool := do
    Job.complain name text
    pure false
  match p.node? source false with
  | .error cause => fail (Job.refusal ("cannot stat ".toList ++ shownSource) cause)
  | .ok id =>
    let there := nodeAt? p false (Path.withoutSlashes path)
    let isDirectory := p.machine.isDirectory id
    let targetIsDirectory := (there.map p.machine.isDirectory).getD false
    if there = some id then fail (shownSource ++ " and ".toList ++ shown ++ " are the same file".toList)
    else if there.isNone ∧ !isDirectory ∧ path.getLast? = some '/' then
      fail (Job.refusal ("cannot move ".toList ++ shownSource ++ " to ".toList ++ shown) .notDirectory)
    else if there.isSome ∧ isDirectory ∧ !targetIsDirectory then
      fail ("cannot overwrite non-directory ".toList ++ shown ++ " with directory ".toList ++ shownSource)
    else if there.isSome ∧ !isDirectory ∧ targetIsDirectory then
      fail ("cannot overwrite directory ".toList ++ shown ++ " with non-directory".toList)
    else
      let verdict ← match there with
        | some target => clash name g id target path
        | none => pure .replace
      match verdict with
      | .skip => pure true
      | .refuse =>
        if g.last? ["i", "n", "f"] = some "n" then fail ("not replacing ".toList ++ shown) else pure false
      | .replace =>
        match ← liftM (Process.rename source path) with
        | .ok () =>
          if g.has "v" then Job.put name ("renamed ".toList ++ report source path ++ ['\n'])
          pure true
        | .error .notEmpty => fail ("cannot overwrite ".toList ++ shown ++ ": Directory not empty".toList)
        | .error .invalidArgument =>
          fail ("cannot move ".toList ++ shownSource ++ " to a subdirectory of itself, ".toList ++ shown)
        | .error cause =>
          fail (Job.refusal ("cannot move ".toList ++ shownSource ++ " to ".toList ++ shown) cause)

/-- Puts things under a path, or into a directory, as the words ask for. -/
def distribute (name : Octets) (g : Given) (act : (source path : Octets) → Job Bool) : Job Bool := do
  let p ← get
  let sources := if g.has "strip-trailing-slashes" then g.words.map Path.withoutSlashes else g.words
  let into (directory source : Octets) : Octets :=
    Path.join directory
      (if g.has "parents" then Path.withoutSlashes source else Path.base source)
  let refuse {α : Type} (directory : Octets) : Job α :=
    let cause : SystemError := match p.node? directory with
      | .ok _ => .notDirectory
      | .error cause => cause
    Job.fail name (Job.refusal ("target ".toList ++ Quoting.always directory) cause)
  match sources, g.value? "t" with
  | [], _ => Job.misused name "missing file operand".toList
  | all, some directory =>
    if leadsToDirectory p directory then allWell all fun source ↦ act source (into directory source)
    else refuse directory
  | [source], none =>
    Job.misused name ("missing destination file operand after ".toList ++ Quoting.plain source)
  | [source, path], none =>
    if g.has "T" then act source path
    else act source (if leadsToDirectory p path then into path source else path)
  | all, none =>
    let directory := all.getLastD []
    if g.has "T" then Job.extraOperand name (all.getD 2 [])
    else if leadsToDirectory p directory then
      allWell all.dropLast fun source ↦ act source (into directory source)
    else refuse directory

end Copying

def cp : Program := fun name arguments ↦ do
  let given ← Job.understand Copying.copyUsage name arguments
  if given.has "n" then
    Job.complain name ("warning: behavior of -n is non-portable and may change in future; " ++
      "use --update=none instead").toList
  let isWell ← Copying.distribute name given fun source path ↦ do
    let limit := (← get).machine.nodes.size + 1
    if given.has "parents" then
      discard (Mkdir.makeAll name false ((← get).masked 0o777) (Path.parent path))
    Copying.copy name given limit true source path
  Job.finish isWell

/-- Gives files and directories other names. -/
def mv : Program := fun name arguments ↦ do
  let given ← Job.understand Copying.moveUsage name arguments
  Job.finish (← Copying.distribute name given (Copying.move name given))

end ProgressActions.Programs
