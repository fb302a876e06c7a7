import ProgressActions.Process
import ProgressActions.Programs.Arguments

/-!
# Programs at work

A program reads its words, reads files or its standard input, writes, and complains under its name.
-/

namespace ProgressActions

namespace Job

/-! ## Output -/

def complain (name text : Octets) : Job Unit := printError (name ++ ": ".toList ++ text ++ ['\n'])

def fail {α : Type} (name : Octets) (text : Octets) (status : Nat := 1) : Job α := do
  complain name text
  exit status

/-- Writes to the standard output. Nobody to read it ends the program at once, and any other refusal ends
it with a complaint. -/
def put (name : Octets) (text : Octets) (failure : Nat := 1) : Job Unit := do
  if text ≠ [] then
    match ← liftM (Process.write 1 text) with
    | .ok () => pure ()
    | .error .brokenPipe => throw (.killed .pipe)
    | .error cause => fail name ("write error: ".toList ++ cause.description.toList) failure

/-- Words for a refusal of the system in front of which a name stands. -/
def refusal (name : Octets) (cause : SystemError) : Octets := name ++ ": ".toList ++ cause.description.toList

def complainOf (name file : Octets) (cause : SystemError) : Job Unit :=
  complain name (refusal (Programs.Quoting.needed file) cause)

/-! ## Words -/

def hint (name : Octets) : Octets := "Try '".toList ++ name ++ " --help' for more information.\n".toList

/-- Complains about words that are not understood, and ends. -/
def misused {α : Type} (name text : Octets) (status : Nat := 1) : Job α := do
  complain name text
  printError (hint name)
  exit status

def understand (u : Programs.Usage) (name : Octets) (words : List Octets) : Job Programs.Given :=
  match u.read words with
  | .ok given => pure given
  | .error problem => misused name problem.message u.failure

/-- Complains that there is no word to work on, or not enough of them. -/
def missingOperand {α : Type} (name : Octets) (words : List Octets := []) (status : Nat := 1) : Job α :=
  match words.getLast? with
  | none => misused name "missing operand".toList status
  | some last => misused name ("missing operand after ".toList ++ Programs.Quoting.plain last) status

/-- Complains about a word too many. -/
def extraOperand {α : Type} (name word : Octets) (status : Nat := 1) : Job α :=
  misused name ("extra operand ".toList ++ Programs.Quoting.plain word) status

/-! ## Input -/

/-- Everything that a file holds; a hyphen stands for the standard input. -/
def input (file : Octets) : Job (Except SystemError Octets) :=
  if file = ['-'] then liftM (Process.read 0) else liftM (Process.readFile file)

/-- The files that a program reads: those that are named, or else the standard input. -/
def inputs (words : List Octets) : List Octets := if words = [] then [['-']] else words

/-- What files hold, one after another, and whether all of them could be read. -/
def inputAll (name : Octets) : List Octets → Job (Octets × Bool)
  | [] => pure ([], true)
  | file :: rest => do
    let here ← input file
    match here with
    | .ok text =>
      let (more, all) ← inputAll name rest
      pure (text ++ more, all)
    | .error cause =>
      complainOf name file cause
      let (more, _) ← inputAll name rest
      pure (more, false)

def status (isWell : Bool) : Nat := if isWell then 0 else 1

def finish {α : Type} (isWell : Bool) : Job α := exit (status isWell)

end Job

end ProgressActions
