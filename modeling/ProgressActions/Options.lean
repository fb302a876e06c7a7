import ProgressActions.Archive

/-!
# Options of the command line

The options that the program knows, their spellings, and the settings that they make.
-/

namespace ProgressActions

/-- When output is coloured. -/
inductive ColorChoice where
  | auto
  | always
  | never
  deriving DecidableEq, Repr

namespace ColorChoice

def name : ColorChoice → String
  | auto => "auto"
  | always => "always"
  | never => "never"

def ofName? (name : String) : Option ColorChoice :=
  [auto, always, never].find? fun c ↦ c.name == name

end ColorChoice

/-- The settings that a command line makes. What it does not mention is left open. -/
structure Options where
  color : ColorChoice := .auto
  /-- The path of the configuration file. -/
  config : Option String := none
  /-- The interval of checkpoints. -/
  checkpoint : Option Nat := none
  /-- The specs of actions, in order. -/
  actions : List String := []
  archive : Option String := none
  blocks : Option Nat := none
  recordSize : Option Nat := none
  mode : Option Mode := none
  /-- Milliseconds of rest after each record. -/
  delay : Option Nat := none
  verbose : Bool := false
  deriving DecidableEq, Repr

namespace Options

/-- An option of the program. -/
inductive Key where
  | color
  | config
  | checkpoint
  | action
  | archive
  | blocks
  | recordSize
  | mode
  | delay
  | verbose
  /-- Short help on the options. -/
  | help
  /-- Full help on the options. -/
  | fullHelp
  | version
  deriving DecidableEq, Repr

namespace Key

/-- The option with a long name. Names cannot be shortened. -/
def ofLong? (name : List Char) : Option Key :=
  match String.ofList name with
  | "color" => some color
  | "config" => some config
  | "checkpoint" => some checkpoint
  | "checkpoint-action" => some action
  | "archive" => some archive
  | "blocks" => some blocks
  | "record-size" => some recordSize
  | "mode" => some mode
  | "delay-ms" => some delay
  | "verbose" => some verbose
  | "help" => some fullHelp
  | "version" => some version
  | _ => none

/-- The option with a short name. -/
def ofShort? : Char → Option Key
  | 'C' => some config
  | 'f' => some archive
  | 'n' => some blocks
  | 'v' => some verbose
  | 'h' => some help
  | 'V' => some version
  | _ => none

/-- Whether an option is followed by a value. -/
def takesValue : Key → Bool
  | verbose => false
  | help => false
  | fullHelp => false
  | version => false
  | _ => true

/-- Whether the value of an option may be left out, and otherwise follows an equals sign. -/
def isValueOptional : Key → Bool
  | checkpoint => true
  | _ => false

/-- Whether an option may be given several times. -/
def isRepeatable : Key → Bool
  | action => true
  | _ => false

end Key

end Options

end ProgressActions
