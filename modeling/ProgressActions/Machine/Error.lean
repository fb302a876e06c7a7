/-!
# Refusals of the system

Why a machine does not do what a process asks of it, with the words and the numbers for the reasons.
-/

namespace ProgressActions

/-- Why a request of a process is refused. -/
inductive SystemError where
  | notPermitted
  | missing
  | noDevice
  | argumentsTooLong
  | notExecutable
  | badDescriptor
  | accessDenied
  | alreadyExists
  | crossDevice
  | notDirectory
  | isDirectory
  | invalidArgument
  | noSpace
  | illegalSeek
  | readOnly
  | brokenPipe
  | nameTooLong
  | notEmpty
  | tooManyLinks
  deriving DecidableEq, Repr

namespace SystemError

def description : SystemError → String
  | notPermitted => "Operation not permitted"
  | missing => "No such file or directory"
  | noDevice => "No such device or address"
  | argumentsTooLong => "Argument list too long"
  | notExecutable => "Exec format error"
  | badDescriptor => "Bad file descriptor"
  | accessDenied => "Permission denied"
  | alreadyExists => "File exists"
  | crossDevice => "Invalid cross-device link"
  | notDirectory => "Not a directory"
  | isDirectory => "Is a directory"
  | invalidArgument => "Invalid argument"
  | noSpace => "No space left on device"
  | illegalSeek => "Illegal seek"
  | readOnly => "Read-only file system"
  | brokenPipe => "Broken pipe"
  | nameTooLong => "File name too long"
  | notEmpty => "Directory not empty"
  | tooManyLinks => "Too many levels of symbolic links"

/-- The number of a reason on Linux. -/
def number : SystemError → Nat
  | notPermitted => 1
  | missing => 2
  | noDevice => 6
  | argumentsTooLong => 7
  | notExecutable => 8
  | badDescriptor => 9
  | accessDenied => 13
  | alreadyExists => 17
  | crossDevice => 18
  | notDirectory => 20
  | isDirectory => 21
  | invalidArgument => 22
  | noSpace => 28
  | illegalSeek => 29
  | readOnly => 30
  | brokenPipe => 32
  | nameTooLong => 36
  | notEmpty => 39
  | tooManyLinks => 40

/-- The words for a reason, with its number. -/
def message (e : SystemError) : String :=
  e.description ++ " (os error " ++ toString e.number ++ ")"

end SystemError

end ProgressActions
