import ProgressActions.Config.Decode
import ProgressActions.Text.Utf8
import ProgressActions.World

/-!
# Loading the configuration

The file comes from the command line, or is looked for under a fixed name. A tilde at the front of a
path stands for the home directory.
-/

namespace ProgressActions.Config

/-- The file that is looked for when the command line names none. -/
def defaultPath : String := "checkpoint.toml"

/-- The path with the home directory for a tilde that stands alone or before a slash. -/
def expandHome (home path : String) : String :=
  match path.toList with
  | '~' :: rest => if rest = [] ∨ rest.head? = some '/' then home ++ String.ofList rest else path
  | _ => path

/-- Whether there is something under a path. -/
def exists? (read : FileReader) (path : String) : Bool :=
  match read path with
  | .error .missing => false
  | .error .notDirectory => false
  | _ => true

def path? (read : FileReader) (home : String) (o : Options) : Option String :=
  match o.config with
  | some path => some (expandHome home path)
  | none => if exists? read defaultPath then some defaultPath else none

def readText (read : FileReader) (path : String) : Except ConfigError (List Char) :=
  match read path with
  | .error cause => .error (.unreadable path cause)
  | .ok content =>
    match Text.ofBytes? content with
    | some text => .ok text
    | none => .error (.unreadable path .notText)

/-- Logs the keys of a file that are not known. -/
def warnAbout (path : String) (keys : List String) (w : World) : World :=
  if keys.isEmpty then w
  else
    keys.foldl (fun w key ↦ (w.write .stderr (Text.bytes ("- " ++ key ++ "\n").toList)).2)
      (w.log "warning" ("unknown fields in " ++ path ++ ", ignoring:"))

/-- The settings of a file. -/
def ofFile (read : FileReader) (path : String) (w : World) : Except ConfigError Config × World :=
  match readText read path with
  | .error cause => (.error cause, w)
  | .ok text =>
    match ofText? text with
    | none => (.error .malformed, w)
    | some (c, unknown) => (.ok c, (warnAbout path unknown w).debug "config" ("loaded " ++ path))

/-- The settings of a run. -/
def load (read : FileReader) (home : String) (o : Options) (w : World) :
    Except ConfigError Config × World :=
  match path? read home o with
  | none => ((({} : Config).override o).validate, w)
  | some path =>
    match ofFile read path w with
    | (.error cause, next) => (.error cause, next)
    | (.ok c, next) => ((c.override o).validate, next)

end ProgressActions.Config
