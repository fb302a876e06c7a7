import ProgressActions.Options
import ProgressActions.Files

/-!
# Configuration

The settings of a run. Each has a default, a file may change it, and the command line has the last word.
Actions are different: those of the command line follow those of the file.
-/

namespace ProgressActions

/-- The settings of a run. -/
structure Config where
  /-- The interval of checkpoints, if one is asked for. -/
  interval : Option Nat := none
  /-- The specs of actions, in order. -/
  actions : List String := []
  archive : String := "archive.tar"
  /-- The number of records. -/
  blocks : Nat := 100
  /-- Bytes in a record. -/
  recordSize : Nat := 20 * blockSize
  mode : Mode := .write
  /-- Milliseconds of rest after each record. -/
  delay : Nat := 0
  deriving DecidableEq, Repr

/-- Why there are no settings. -/
inductive ConfigError where
  /-- The file cannot be read. -/
  | unreadable (path : String) (cause : FileError)
  /-- The file is no configuration. -/
  | malformed
  /-- Records of this size are not possible. -/
  | recordSize (size : Nat)
  deriving DecidableEq, Repr

namespace ConfigError

def message : ConfigError → String
  | unreadable path _ => "IO error when reading \x60" ++ path ++ "\x60"
  | malformed => "Config file parsing error"
  | recordSize size =>
    "Config validation error: record_size must be a positive multiple of " ++ toString blockSize ++
      ", got " ++ toString size

end ConfigError

namespace Config

/-- The interval for an engine: zero when none is asked for. -/
def engineInterval (c : Config) : Nat := c.interval.getD 0

/-- The settings with those of a command line over them. -/
def override (c : Config) (o : Options) : Config :=
  { interval := o.checkpoint.or c.interval
    actions := c.actions ++ o.actions
    archive := o.archive.getD c.archive
    blocks := o.blocks.getD c.blocks
    recordSize := o.recordSize.getD c.recordSize
    mode := o.mode.getD c.mode
    delay := o.delay.getD c.delay }

/-- Whether records have a positive number of whole blocks. -/
def isValid (c : Config) : Bool := 0 < c.recordSize && c.recordSize % blockSize == 0

/-- The settings, if records of their size are possible. -/
def validate (c : Config) : Except ConfigError Config :=
  if c.isValid then .ok c else .error (.recordSize c.recordSize)

@[simp] theorem override_empty (c : Config) : c.override {} = c := by
  simp [override]

theorem validate_eq_ok {c valid : Config} (h : c.validate = .ok valid) :
    valid = c ∧ c.isValid = true := by
  unfold validate at h
  split at h
  · rename_i hvalid
    exact ⟨(Except.ok.inj h).symm, hvalid⟩
  · cases h

end Config

end ProgressActions
