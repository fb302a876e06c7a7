import ProgressActions.Shell.Builtin.Directories
import ProgressActions.Shell.Builtin.Flow
import ProgressActions.Shell.Builtin.Names
import ProgressActions.Shell.Builtin.Printing
import ProgressActions.Shell.Builtin.Signals
import ProgressActions.Shell.Builtin.Variables

/-!
# The commands of a shell by their names

The command `exec` is not among them: it replaces the shell, or leaves its redirections in place.
-/

namespace ProgressActions.Shell.Builtin

/-- Prints how much time the shell and its processes have used. -/
def times : Builtin := fun _ _ ↦ do
  Act.print "0m0.000000s 0m0.000000s\n0m0.000000s 0m0.000000s\n".toList
  pure 0

/-- Prints the limit for a resource: there is none. -/
def limits : Builtin := fun _ arguments ↦ do
  let (_, words) ← options "HSatfdscmlpnvwr".toList [] (arguments.length + 1) arguments
  if words = [] then Act.print "unlimited\n".toList
  pure 0

def statusOnly (status : Nat) : Builtin := fun _ _ ↦ pure status

def ofName (v : Services) (stance : Stance) (name : Octets) : Builtin :=
  match String.ofList name with
  | ":" => statusOnly 0
  | "true" => statusOnly 0
  | "false" => statusOnly 1
  | "echo" => echo
  | "printf" => printf
  | "test" => test
  | "[" => test
  | "kill" => kill
  | "trap" => trap
  | "wait" => wait
  | "jobs" => jobs
  | "exit" => exit
  | "return" => leave
  | "break" => leaveLoops .loops
  | "continue" => leaveLoops .rounds
  | "export" => announce true false
  | "readonly" => announce false true
  | "local" => makeLocal
  | "unset" => unset
  | "shift" => shift
  | "set" => setAll
  | "getopts" => getOption
  | "read" => read
  | "eval" => evaluateWords v stance
  | "." => source v
  | "cd" => changeDirectory
  | "chdir" => changeDirectory
  | "pwd" => printDirectory
  | "umask" => mask
  | "command" => command
  | "type" => type
  | "hash" => hash
  | "alias" => aliased
  | "unalias" => unalias
  | "times" => times
  | "ulimit" => limits
  | _ => statusOnly 0

end ProgressActions.Shell.Builtin
