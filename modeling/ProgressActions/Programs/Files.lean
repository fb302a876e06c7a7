import ProgressActions.Machine.Permissions
import ProgressActions.Process.Tree
import ProgressActions.Programs.Amount
import ProgressActions.Programs.Basic

/-!
# Making and removing files

Programs that make directories and links, remove files, and change their permissions and their times.
-/

namespace ProgressActions.Programs

/-- Does something for each word, and tells whether it went well for all of them. -/
def allWell (words : List Octets) (act : Octets → Job Bool) : Job Bool := do
  let mut isWell := true
  for word in words do
    let here ← act word
    isWell := isWell && here
  pure isWell

/-- Carries out a request; a refusal is complained about. -/
def attempt (name : Octets) (work : Work (Except SystemError Unit)) (complaint : Octets) : Job Bool := do
  match ← liftM work with
  | .ok () => pure true
  | .error cause =>
    Job.complain name (Job.refusal complaint cause)
    pure false

/-- Whether the answer on the standard input is yes. -/
def isAffirmed (question : Octets) : Job Bool := do
  Job.printError (question ++ [' '])
  let p ← get
  match p.openOf? 0 with
  | none => pure false
  | some file =>
    let answer ← liftM (Process.readOpenWhile file fun text ↦ ((Octets.lines text).headD []).length)
    match answer with
    | .ok (c :: _) => pure (c == 'y' || c == 'Y')
    | _ => pure false

/-! ## Removing -/

namespace Rm

def usage : Usage :=
  { choices :=
      [{ key := "f", names := ["force"] }, { key := "i" }, { key := "I" },
       { key := "interactive", demand := .attached }, { key := "r", names := ["recursive"] },
       { key := "R" }, { key := "d", names := ["dir"] }, { key := "v", names := ["verbose"] },
       { key := "one-file-system" }, { key := "no-preserve-root" },
       { key := "preserve-root", demand := .attached }] }

structure Style where
  isForced : Bool
  asks : Bool
  isDeep : Bool
  removesEmpty : Bool
  isVerbose : Bool

def kind (m : Machine) (id : Nat) : String :=
  match m.body id with
  | .directory _ _ => "directory"
  | .link _ => "symbolic link"
  | .file content => if content.size = 0 then "regular empty file" else "regular file"
  | .program _ => "regular file"
  | .stream _ => "fifo"
  | _ => "character special file"

def remove (name : Octets) (s : Style) : (limit : Nat) → Octets → Job Bool
  | 0, _ => pure false
  | limit + 1, path => do
    let p ← get
    let shown := Quoting.always path
    let refused := "cannot remove ".toList ++ shown
    match p.node? path false with
    | .error cause =>
      if s.isForced ∧ cause = .missing then pure true
      else
        Job.complain name (Job.refusal refused cause)
        pure false
    | .ok id =>
      let question (text : String) : Job Bool :=
        if s.asks then isAffirmed (name ++ ": ".toList ++ text.toList ++ ' ' :: shown ++ ['?']) else pure true
      if p.machine.isDirectory id then
        let isEmpty := p.machine.entries id == []
        if !s.isDeep ∧ !s.removesEmpty then
          Job.complain name (Job.refusal refused .isDirectory)
          pure false
        else if !s.isDeep ∧ !isEmpty then
          Job.complain name (Job.refusal refused .notEmpty)
          pure false
        else
          let goesOn ← if isEmpty then pure true else question "descend into directory"
          if !goesOn then pure true
          else
            let names := ((← get).machine.entries id).map (·.1)
            let isWell ← allWell names fun entry ↦ remove name s limit (Path.join path entry)
            if !isWell then pure false
            else if ← question "remove directory" then
              let done ← attempt name (Process.removeDirectory path) refused
              if done ∧ s.isVerbose then Job.put name ("removed directory ".toList ++ shown ++ ['\n'])
              pure done
            else pure true
      else if ← question ("remove " ++ kind p.machine id) then
        let done ← attempt name (Process.removeName path) refused
        if done ∧ s.isVerbose then Job.put name ("removed ".toList ++ shown ++ ['\n'])
        pure done
      else pure true

end Rm

def rm : Program := fun name arguments ↦ do
  let given ← Job.understand Rm.usage name arguments
  let isForced := given.last? ["f", "i", "I", "interactive"] == some "f"
  let s : Rm.Style :=
    { isForced
      asks := given.last? ["f", "i", "I", "interactive"] == some "i"
      isDeep := given.has "r" || given.has "R"
      removesEmpty := given.has "d"
      isVerbose := given.has "v" }
  if given.words = [] then
    if isForced then pure () else Job.missingOperand name
  else
    let isWell ← allWell given.words fun path ↦ do
      let base := Path.base path
      if s.isDeep ∧ (base = ['.'] ∨ base = ['.', '.']) then
        Job.complain name ("refusing to remove '.' or '..' directory: skipping ".toList ++ Quoting.always path)
        pure false
      else if s.isDeep ∧ base = ['/'] ∧ !given.has "no-preserve-root" then
        Job.complain name "it is dangerous to operate recursively on '/'".toList
        Job.complain name "use --no-preserve-root to override this failsafe".toList
        pure false
      else
        let depth := (← get).machine.nodes.size + 1
        Rm.remove name s depth path
    Job.finish isWell

def rmdir : Program := fun name arguments ↦ do
  let usage : Usage :=
    { choices :=
        [{ key := "p", names := ["parents"] }, { key := "v", names := ["verbose"] },
         { key := "ignore-fail-on-non-empty" }] }
  let given ← Job.understand usage name arguments
  if given.words = [] then Job.missingOperand name
  else
    let rec removeUp : (limit : Nat) → (isFirst : Bool) → Octets → Job Bool
      | 0, _, _ => pure true
      | limit + 1, isFirst, path => do
        let shown := Quoting.always path
        if given.has "v" then Job.put name ("rmdir: removing directory, ".toList ++ shown ++ ['\n'])
        match ← liftM (Process.removeDirectory path) with
        | .ok () =>
          let outer := Path.parent path
          if given.has "p" ∧ outer ≠ ['.'] ∧ outer ≠ ['/'] then removeUp limit false outer else pure true
        | .error cause =>
          if cause = .notEmpty ∧ given.has "ignore-fail-on-non-empty" then pure true
          else
            let verb := if isFirst then "failed to remove " else "failed to remove directory "
            Job.complain name (Job.refusal (verb.toList ++ shown) cause)
            pure false
    Job.finish (← allWell given.words fun path ↦ removeUp (path.length + 1) true path)

def unlink : Program := fun name arguments ↦ do
  match (← Job.understand { choices := [] } name arguments).words with
  | [] => Job.missingOperand name
  | [path] =>
    Job.finish (← attempt name (Process.removeName path) ("cannot unlink ".toList ++ Quoting.always path))
  | _ :: extra :: _ => Job.extraOperand name extra

/-! ## Making directories -/

namespace Mkdir

def makeAll (name : Octets) (isVerbose : Bool) (mode : Nat) (path : Octets) : Job Bool := do
  let names := Path.names path
  let start : Octets := if Path.isAbsolute path then ['/'] else []
  let rec go : (done : Octets) → List Octets → Job Bool
    | _, [] => pure true
    | done, next :: rest => do
      let here := if done = [] then next else Path.join done next
      let p ← get
      match p.node? here with
      | .ok id =>
        if p.machine.isDirectory id then go here rest
        else
          let cause : SystemError := if rest = [] then .alreadyExists else .notDirectory
          Job.complain name (Job.refusal ("cannot create directory ".toList ++ Quoting.always here) cause)
          pure false
      | .error .missing =>
        let bits := if rest = [] then mode else p.masked 0o777 ||| 0o300
        let done ← attempt name (Process.makeDirectory here bits)
          ("cannot create directory ".toList ++ Quoting.always here)
        if done then
          if isVerbose then Job.put name (name ++ ": created directory ".toList ++ Quoting.always here ++ ['\n'])
          go here rest
        else pure false
      | .error cause =>
        Job.complain name (Job.refusal ("cannot create directory ".toList ++ Quoting.always here) cause)
        pure false
  go start (names.filter (· != ['.']))

end Mkdir

def mkdir : Program := fun name arguments ↦ do
  let usage : Usage :=
    { choices :=
        [{ key := "m", names := ["mode"], demand := .value }, { key := "p", names := ["parents"] },
         { key := "v", names := ["verbose"] }, { key := "Z" }] }
  let given ← Job.understand usage name arguments
  if given.words = [] then Job.missingOperand name
  else
    let p ← get
    let mode ← match given.value? "m" with
      | none => pure (p.masked 0o777)
      | some text =>
        match Permissions.change? p.mask true 0o777 text with
        | some bits => pure bits
        | none => Job.fail name ("invalid mode ".toList ++ Quoting.plain text)
    let isVerbose := given.has "v"
    let isWell ← allWell given.words fun path ↦ do
      if given.has "p" then Mkdir.makeAll name isVerbose mode path
      else
        let done ← attempt name (Process.makeDirectory path mode)
          ("cannot create directory ".toList ++ Quoting.always path)
        if done ∧ isVerbose then
          Job.put name (name ++ ": created directory ".toList ++ Quoting.always path ++ ['\n'])
        pure done
    Job.finish isWell

def mkfifo : Program := fun name arguments ↦ do
  let given ← Job.understand { choices := [{ key := "m", names := ["mode"], demand := .value }] } name arguments
  if given.words = [] then Job.missingOperand name
  else
    let p ← get
    Job.finish (← allWell given.words fun path ↦
      attempt name (Process.makeNode path (.stream .empty) (p.masked 0o666))
        ("cannot create fifo ".toList ++ Quoting.always path))

/-! ## Permissions and times -/

namespace Chmod

def report (path : Octets) (old new : Nat) : Octets :=
  let shown (bits : Nat) : Octets :=
    Text.padStart 4 '0' (Nat.toDigits 8 bits) ++ " (".toList ++ Permissions.letters bits ++ [')']
  if old = new then "mode of ".toList ++ Quoting.always path ++ " retained as ".toList ++ shown new ++ ['\n']
  else
    "mode of ".toList ++ Quoting.always path ++ " changed from ".toList ++ shown old ++ " to ".toList ++
      shown new ++ ['\n']

/-- Whether a word is a mode, although it begins like an option. -/
def isMode : Octets → Bool
  | '-' :: c :: rest => "rwxXstugo,+=0123456789-".toList.contains c && (c != '-' || rest == [])
  | _ => false

def usage : Usage :=
  { choices :=
      [{ key := "c", names := ["changes"] }, { key := "f", names := ["silent", "quiet"] },
       { key := "v", names := ["verbose"] }, { key := "R", names := ["recursive"] },
       { key := "reference", demand := .value }, { key := "no-preserve-root" },
       { key := "preserve-root" }] }

/-- Changes the permissions of what a path leads to. -/
def apply (name : Octets) (g : Given) (change : Bool → Nat → Option Nat) : (limit : Nat) → Octets → Job Bool
  | 0, _ => pure true
  | limit + 1, path => do
    let p ← get
    match p.node? path with
    | .error cause =>
      if !g.has "f" then
        Job.complain name (Job.refusal ("cannot access ".toList ++ Quoting.always path) cause)
      pure false
    | .ok id =>
      let old := (p.machine.node id).mode
      let isDirectory := p.machine.isDirectory id
      match change isDirectory old with
      | none => pure false
      | some new =>
        liftM (Process.setMode id new)
        if g.has "v" ∨ (g.has "c" ∧ old ≠ new) then Job.put name (report path old new)
        if g.has "R" ∧ isDirectory then
          let names := (p.machine.entries id).map (·.1)
          allWell names fun entry ↦ do
            let isLink := match (← get).linkTarget? (Path.join path entry) with
              | .ok _ => true
              | .error _ => false
            if isLink then pure true else apply name g change limit (Path.join path entry)
        else pure true

end Chmod

def chmod : Program := fun name arguments ↦ do
  let modes := arguments.filter Chmod.isMode
  let given ← Job.understand Chmod.usage name (arguments.filter (!Chmod.isMode ·))
  let p ← get
  let (change, words) ← match given.value? "reference", modes with
    | some other, _ =>
      match p.node? other with
      | .ok id => pure ((fun _ _ ↦ some (p.machine.node id).mode : Bool → Nat → Option Nat), given.words)
      | .error cause =>
        Job.fail name (Job.refusal ("failed to get attributes of ".toList ++ Quoting.always other) cause)
    | none, [] =>
      match given.words with
      | [] => Job.missingOperand name
      | [mode] => Job.missingOperand name [mode]
      | mode :: rest => pure ((fun isDirectory old ↦ Permissions.change? p.mask isDirectory old mode), rest)
    | none, _ =>
      let mode := [','].intercalate modes
      if given.words = [] then Job.missingOperand name modes
      else pure ((fun isDirectory old ↦ Permissions.change? p.mask isDirectory old mode), given.words)
  if words = [] then Job.missingOperand name
  else if (change false 0).isNone then
    Job.misused name ("invalid mode: ".toList ++ Quoting.plain (modes.headD (given.words.headD [])))
  else
    Job.finish (← allWell words fun path ↦ do Chmod.apply name given change ((← get).machine.nodes.size + 1) path)

/-- Makes files, or sets their times to the present. -/
def touch : Program := fun name arguments ↦ do
  let usage : Usage :=
    { choices :=
        [{ key := "a" }, { key := "c", names := ["no-create"] },
         { key := "d", names := ["date"], demand := .value }, { key := "f" },
         { key := "h", names := ["no-dereference"] }, { key := "m" },
         { key := "r", names := ["reference"], demand := .value }, { key := "t", demand := .value },
         { key := "time", demand := .value }] }
  let given ← Job.understand usage name arguments
  if given.words = [] then Job.misused name "missing file operand".toList
  else
    let start ← get
    let moment ← match given.value? "r", given.value? "d" with
      | some other, _ =>
        match start.node? other with
        | .ok id => pure (start.machine.node id).modified
        | .error cause =>
          Job.fail name (Job.refusal ("failed to get attributes of ".toList ++ Quoting.always other) cause)
      | none, some ('@' :: digits) => pure ((Text.natural? digits).getD 0 : Int)
      | _, _ => pure start.machine.now
    let isWell ← allWell given.words fun path ↦ do
      let p ← get
      match p.node? path with
      | .ok id =>
        liftM (Process.setModified id moment)
        pure true
      | .error cause =>
        if given.has "c" then pure true
        else if path.getLast? = some '/' ∧ cause = .missing then
          Job.complain name (Job.refusal ("setting times of ".toList ++ Quoting.always path) cause)
          pure false
        else
          match ← liftM (Process.openFile path .extending) with
          | .ok _ => pure true
          | .error refused =>
            Job.complain name (Job.refusal ("cannot touch ".toList ++ Quoting.always path) refused)
            pure false
    Job.finish isWell

/-- Cuts files off, or makes them longer. -/
def truncate : Program := fun name arguments ↦ do
  let usage : Usage :=
    { choices :=
        [{ key := "c", names := ["no-create"] }, { key := "o", names := ["io-blocks"] },
         { key := "r", names := ["reference"], demand := .value },
         { key := "s", names := ["size"], demand := .value }] }
  let given ← Job.understand usage name arguments
  let p ← get
  let base ← match given.value? "r" with
    | none => pure none
    | some file =>
      match p.node? file with
      | .ok id => pure (some (p.machine.size id))
      | .error cause => Job.fail name (Job.refusal ("cannot stat ".toList ++ Quoting.always file) cause)
  let size ← match given.value? "s" with
    | none => pure none
    | some text =>
      let (mark, digits) := match text with
        | c :: rest => if "+-<>/%".toList.contains c then (some c, rest) else (none, text)
        | [] => (none, text)
      match amount? digits with
      | some n => pure (some (mark, n))
      | none => Job.fail name ("Invalid number: ".toList ++ Quoting.plain text)
  if size.isNone ∧ base.isNone then
    Job.misused name "you must specify either '--size' or '--reference'".toList
  else if given.words = [] then Job.misused name "missing file operand".toList
  else
    let isWell ← allWell given.words fun path ↦ do
      let missing : Bool := match (← get).node? path with
        | .ok _ => false
        | .error _ => true
      if given.has "c" ∧ missing then pure true
      else
        match ← liftM (Process.openFile path { writes := true, creates := true }) with
        | .error cause =>
          Job.complain name (Job.refusal ("cannot open ".toList ++ Quoting.always path ++ " for writing".toList) cause)
          pure false
        | .ok file =>
          let now ← get
          let id := (now.machine.opens.getD file default).node
          let old := base.getD (now.machine.size id)
          let new := match size with
            | none => old
            | some (none, n) => n
            | some (some '+', n) => old + n
            | some (some '-', n) => old - n
            | some (some '<', n) => min old n
            | some (some '>', n) => max old n
            | some (some '/', n) => if n = 0 then old else old / n * n
            | some (_, n) => if n = 0 then old else (old + n - 1) / n * n
          match now.machine.body id with
          | .file content =>
            let kept := content.extract 0 new
            let zeros : ByteArray := ⟨Array.replicate (new - kept.size) 0⟩
            liftM (Process.onMachine fun m ↦ m.setBody id (.file (kept ++ zeros)) : Work Unit)
          | _ => pure ()
          pure true
    Job.finish isWell

/-! ## Links -/

namespace Ln

def usage : Usage :=
  { choices :=
      [{ key := "b" }, { key := "backup", demand := .attached }, { key := "d", names := ["directory"] },
       { key := "F" }, { key := "f", names := ["force"] }, { key := "i", names := ["interactive"] },
       { key := "L", names := ["logical"] }, { key := "n", names := ["no-dereference"] },
       { key := "P", names := ["physical"] }, { key := "r", names := ["relative"] },
       { key := "s", names := ["symbolic"] }, { key := "S", names := ["suffix"], demand := .value },
       { key := "t", names := ["target-directory"], demand := .value },
       { key := "T", names := ["no-target-directory"] }, { key := "v", names := ["verbose"] }] }

def link (name : Octets) (g : Given) (target path : Octets) : Job Bool := do
  let isSymbolic := g.has "s"
  let p ← get
  let sourceFault : Option SystemError := if isSymbolic then none else
    match p.node? target (g.has "L") with
    | .ok _ => none
    | .error cause => some cause
  match sourceFault with
  | some cause =>
    Job.complain name (Job.refusal ("failed to access ".toList ++ Quoting.always target) cause)
    pure false
  | none =>
    let isDirectory := !isSymbolic && ((p.node? target false).toOption.map p.machine.isDirectory).getD false
    if isDirectory then
      Job.complain name (Quoting.needed target ++ ": hard link not allowed for directory".toList)
      pure false
    else
      let found := (p.node? path false).toOption
      if g.has "f" then
        match found with
        | some id => if !p.machine.isDirectory id then discard (liftM (Process.removeName path) : Job _)
        | none => pure ()
      let kind := if isSymbolic then "symbolic link " else "hard link "
      let arrow : Octets := if isSymbolic then [] else
        (if found.isNone then " => ".toList ++ Quoting.always target else [])
      let done ← attempt name
        (if isSymbolic then Process.makeLink target path else Process.addName (g.has "L") target path)
        ("failed to create ".toList ++ kind.toList ++ Quoting.always path ++ arrow)
      if done ∧ g.has "v" then
        Job.put name (Quoting.always path ++ (if isSymbolic then " -> " else " => ").toList ++
          Quoting.always target ++ ['\n'])
      pure done

end Ln

def ln : Program := fun name arguments ↦ do
  let given ← Job.understand Ln.usage name arguments
  let p ← get
  let isDirectory (path : Octets) : Bool :=
    ((p.node? path (!given.has "n")).toOption.map p.machine.isDirectory).getD false
  let inside (directory target : Octets) : Octets := Path.join directory (Path.base target)
  match given.words, given.value? "t" with
  | [], _ => Job.misused name "missing file operand".toList
  | words, some directory => Job.finish (← allWell words fun w ↦ Ln.link name given w (inside directory w))
  | [target], none => Job.finish (← Ln.link name given target (inside ['.'] target))
  | [target, path], none =>
    Job.finish (← Ln.link name given target
      (if isDirectory path ∧ !given.has "T" then inside path target else path))
  | words, none =>
    let directory := words.getLastD []
    if isDirectory directory then
      Job.finish (← allWell words.dropLast fun w ↦ Ln.link name given w (inside directory w))
    else
      let cause : SystemError := match p.node? directory with
        | .ok _ => .notDirectory
        | .error cause => cause
      Job.fail name (Job.refusal ("target ".toList ++ Quoting.always directory) cause)

def link : Program := fun name arguments ↦ do
  match (← Job.understand { choices := [] } name arguments).words with
  | [] => Job.missingOperand name
  | [path] => Job.missingOperand name [path]
  | [path, other] =>
    Job.finish (← attempt name (Process.addName false path other)
      ("cannot create link ".toList ++ Quoting.always other ++ " to ".toList ++ Quoting.always path))
  | _ :: _ :: extra :: _ => Job.extraOperand name extra

/-! ## Names for a while -/

/-- Letters for a name that nobody has taken, by a number. -/
def freshLetters : (count : Nat) → (n : Nat) → Octets
  | 0, _ => []
  | count + 1, n =>
    let all := "abcdefghijklmnopqrstuvwxyzABCDEFGHIJKLMNOPQRSTUVWXYZ0123456789".toList
    all.getD (n % all.length) 'a' :: freshLetters count (n / all.length + 7919 * n)

/-- Makes a file or a directory under a fresh name. -/
def mktemp : Program := fun name arguments ↦ do
  let usage : Usage :=
    { choices :=
        [{ key := "d", names := ["directory"] }, { key := "u", names := ["dry-run"] },
         { key := "q", names := ["quiet"] }, { key := "p", demand := .value },
         { key := "tmpdir", demand := .attached }, { key := "t" },
         { key := "suffix", demand := .value }] }
  let given ← Job.understand usage name arguments
  match given.words with
  | _ :: _ :: _ => Job.misused name "too many templates".toList
  | words =>
    let p ← get
    let usual := (p.environment.lookup "TMPDIR".toList).getD "/tmp".toList
    let template := words.headD "tmp.XXXXXXXXXX".toList
    let suffix := (given.value? "suffix").getD []
    let marks := (template.reverse.dropWhile (· != 'X')).takeWhile (· == 'X')
    let tail := (template.reverse.takeWhile (· != 'X')).reverse
    if marks.length < 3 then Job.fail name ("too few X's in template ".toList ++ Quoting.plain template)
    else
      let inDirectory := words = [] || given.has "p" || given.has "tmpdir" || given.has "t"
      let directory := ((given.value? "p").or (given.value? "tmpdir")).getD usual
      let front := template.take (template.length - marks.length - tail.length)
      let fresh := front ++ freshLetters marks.length (31 * p.machine.nodes.size + p.id) ++ tail ++ suffix
      let path := if inDirectory then Path.join directory fresh else fresh
      let done ← if given.has "u" then pure true
        else if given.has "d" then
          attempt name (Process.makeDirectory path 0o700)
            ("failed to create directory via template ".toList ++ Quoting.plain template)
        else
          attempt name (Process.makeNode path (.file .empty) 0o600)
            ("failed to create file via template ".toList ++ Quoting.plain template)
      if done then Job.put name (path ++ ['\n']) else Job.exit 1

end ProgressActions.Programs
