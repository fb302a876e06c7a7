import ProgressActions.Signal

/-!
# Notices about signals

A shell notes in words by which signal a command has ended.
-/

namespace ProgressActions.Shell

def signalWords : Signal → String
  | .hup => "Hangup"
  | .int => "Interrupt"
  | .quit => "Quit"
  | .ill => "Illegal instruction"
  | .trap => "Trace/breakpoint trap"
  | .abrt => "Aborted"
  | .bus => "Bus error"
  | .fpe => "Floating point exception"
  | .kill => "Killed"
  | .usr1 => "User defined signal 1"
  | .segv => "Segmentation fault"
  | .usr2 => "User defined signal 2"
  | .pipe => "Broken pipe"
  | .alrm => "Alarm clock"
  | .term => "Terminated"
  | .stkflt => "Stack fault"
  | .chld => "Child exited"
  | .cont => "Continued"
  | .stop => "Stopped (signal)"
  | .tstp => "Stopped"
  | .ttin => "Stopped (tty input)"
  | .ttou => "Stopped (tty output)"
  | .urg => "Urgent I/O condition"
  | .xcpu => "CPU time limit exceeded"
  | .xfsz => "File size limit exceeded"
  | .vtalrm => "Virtual timer expired"
  | .prof => "Profiling timer expired"
  | .winch => "Window changed"
  | .io => "I/O possible"
  | .pwr => "Power failure"
  | .sys => "Bad system call"

/-- What is noted when a command has ended by a signal. Interruptions and broken pipes are not noted. -/
def notice (signal : Signal) : List Char :=
  if signal = .int ∨ signal = .pipe then [] else (signalWords signal).toList ++ ['\n']

end ProgressActions.Shell
