/-!
# Files

Reading a file by its path yields bytes or the reason why there are none. A directory with known
contents is read by following paths through it, name by name.
-/

namespace ProgressActions

/-- Why a file cannot be read. -/
inductive FileError where
  | missing
  | isDirectory
  /-- A file stands where the path needs a directory. -/
  | notDirectory
  | nameTooLong
  /-- The path holds the character zero. -/
  | zeroInPath
  /-- The bytes of the file are no text. -/
  | notText
  deriving DecidableEq, Repr

namespace FileError

def message : FileError → String
  | missing => "No such file or directory (os error 2)"
  | isDirectory => "Is a directory (os error 21)"
  | notDirectory => "Not a directory (os error 20)"
  | nameTooLong => "File name too long (os error 36)"
  | zeroInPath => "file name contained an unexpected NUL byte"
  | notText => "stream did not contain valid UTF-8"

end FileError

/-- A way to read files by their paths. -/
abbrev FileReader := (path : String) → Except FileError (List UInt8)

/-- The files of a directory by their relative paths, names parted by slashes. -/
structure Directory where
  files : List (List String × List UInt8)

namespace Directory

/-- The names that a path is made of. Empty names and single dots lead nowhere. -/
def names (path : String) : List String :=
  ((path.splitOn "/").filter fun name ↦ name != "" && name != ".")

def ofPaths (files : List (String × List UInt8)) : Directory :=
  ⟨files.map fun (path, content) ↦ (names path, content)⟩

/-- The content of the file at a place. -/
def file? (d : Directory) (place : List String) : Option (List UInt8) := d.files.lookup place

/-- Whether there is a directory at a place. The top is one even when it is empty. -/
def isDirectory (d : Directory) (place : List String) : Bool :=
  place.isEmpty ||
    d.files.any fun (names, _) ↦ place.isPrefixOf names && place.length < names.length

/-- The place that names lead to from a directory, the names of which come in order. -/
def follow (d : Directory) : (place : List String) → List String → Except FileError (List String)
  | place, [] => .ok place
  | place, name :: rest =>
    if d.isDirectory place = false then
      .error (if (d.file? place).isSome then .notDirectory else .missing)
    else if name.utf8ByteSize > 255 then .error .nameTooLong
    else if name = ".." then
      if place.isEmpty then .error (if rest.isEmpty then .isDirectory else .missing)
      else d.follow place.dropLast rest
    else d.follow (place ++ [name]) rest

/-- Paths outside of the directory that are known to be there. -/
def outside (path : String) : Except FileError (List UInt8) :=
  if path = "/dev/null" then .ok []
  else if ["/", "/bin", "/dev", "/etc", "/home", "/proc", "/root", "/tmp", "/usr", "/var"].contains path then
    .error .isDirectory
  else .error .missing

/-- Reads a file. A slash at the end of its path asks for a directory. -/
def read (d : Directory) : FileReader := fun path ↦
  if path.contains '\x00' then .error .zeroInPath
  else if path.isEmpty then .error .missing
  else if path.startsWith "/" then outside path
  else
    match d.follow [] (names path) with
    | .error cause => .error cause
    | .ok place =>
      if d.isDirectory place then .error .isDirectory
      else
        match d.file? place with
        | some content => if path.endsWith "/" || path.endsWith "/." then .error .notDirectory else .ok content
        | none => .error .missing

end Directory

end ProgressActions
