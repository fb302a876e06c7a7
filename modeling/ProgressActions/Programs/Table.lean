import ProgressActions.Programs.Cat
import ProgressActions.Programs.Clock
import ProgressActions.Programs.Compare
import ProgressActions.Programs.Copying
import ProgressActions.Programs.Count
import ProgressActions.Programs.Ends
import ProgressActions.Programs.Expr
import ProgressActions.Programs.Fields
import ProgressActions.Programs.Files
import ProgressActions.Programs.Find
import ProgressActions.Programs.Grep
import ProgressActions.Programs.Lines
import ProgressActions.Programs.Listing
import ProgressActions.Programs.Merged
import ProgressActions.Programs.Running
import ProgressActions.Programs.Sequence
import ProgressActions.Programs.Sed
import ProgressActions.Programs.Sorted
import ProgressActions.Programs.System
import ProgressActions.Programs.Translation
import ProgressActions.Programs.Words
import ProgressActions.Shell.Start

/-!
# The programs by their names

Programs that run other programs are told how these are launched.
-/

namespace ProgressActions.Programs

def plain : List (String × Program) :=
  [("[", test), ("arch", arch), ("basename", basename), ("cat", cat), ("chmod", chmod),
   ("cmp", cmp), ("comm", comm), ("cp", cp), ("cut", cut), ("date", date), ("diff", diff),
   ("dirname", dirname), ("echo", echo), ("egrep", egrep), ("expand", expand), ("expr", expr),
   ("factor", factor), ("false", fun _ _ ↦ Job.exit 1), ("fgrep", fgrep), ("fold", fold),
   ("grep", grep), ("groups", groups), ("head", head), ("hostname", hostname), ("id", identity),
   ("join", join), ("kill", kill), ("link", link), ("ln", ln), ("logname", logname), ("ls", ls),
   ("mkdir", mkdir), ("mkfifo", mkfifo), ("mktemp", mktemp), ("mv", mv), ("nl", nl),
   ("nproc", nproc), ("paste", paste), ("printenv", printenv), ("printf", printf), ("pwd", pwd),
   ("readlink", readlink), ("realpath", realpath), ("rev", rev), ("rm", rm), ("rmdir", rmdir),
   ("seq", seq), ("sleep", sleep), ("sort", sort), ("stat", stat), ("sync", fun _ _ ↦ pure ()),
   ("tac", tac), ("tail", tail), ("tee", tee), ("test", test), ("touch", touch), ("tr", tr),
   ("true", fun _ _ ↦ pure ()), ("truncate", truncate), ("tty", tty), ("uname", uname),
   ("unexpand", unexpand), ("uniq", uniq), ("unlink", unlink), ("wc", wc), ("which", which),
   ("whoami", whoami), ("yes", yes)]

def launching : List (String × (Launcher → Program)) :=
  [("bash", Shell.program), ("dash", Shell.program), ("env", env), ("find", find), ("nice", nice),
   ("nohup", nohup), ("sed", sed), ("sh", Shell.program), ("stdbuf", stdbuf), ("timeout", timeout),
   ("xargs", xargs)]

def names : List String := plain.map (·.1) ++ launching.map (·.1)

def ofName? (launch : Launcher) (name : Octets) : Option Program :=
  let text := String.ofList name
  (plain.lookup text).or ((launching.lookup text).map (· launch))

end ProgressActions.Programs
