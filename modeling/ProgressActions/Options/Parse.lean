import ProgressActions.Options
import ProgressActions.Text.Numeral

/-!
# Reading the command line

Arguments are read from left to right. A value may be attached to its option or be an argument of its
own; in the latter case the option takes effect only when the next option does, or at the end.
-/

namespace ProgressActions.Options

/-- An argument of the command line. -/
structure Argument where
  content : List Char
  /-- Whether the argument was text. If not, replacements stand for the bytes that were none. -/
  isText : Bool := true
  deriving DecidableEq, Repr

/-- Why a command line is not accepted. -/
inductive Rejection where
  | unknownArgument
  /-- A value is missing, or is none of the possible ones. -/
  | invalidValue
  /-- A value is no number of the right width. -/
  | valueValidation
  /-- An option is repeated that may occur once. -/
  | argumentConflict
  /-- A value is attached to an option that takes none. -/
  | tooManyValues
  /-- A value is no text. -/
  | invalidUtf8
  /-- Help is asked for, in short or in full. -/
  | displayHelp (isFull : Bool)
  /-- The version is asked for. -/
  | displayVersion
  deriving DecidableEq, Repr

/-- The interval of checkpoints when the option is given without a value. -/
def impliedInterval : Nat := 10

def textValue (value : Argument) : Except Rejection String :=
  if value.isText then .ok (String.ofList value.content) else .error .invalidUtf8

/-- The number that a value spells. -/
def numberValue (value : Argument) : Except Rejection Nat :=
  if value.isText then
    match Text.word? value.content with
    | some n => .ok n
    | none => .error .valueValidation
  else .error .invalidUtf8

/-- One of several possible values. -/
def choiceValue {α : Type} (ofName? : String → Option α) (value : Argument) : Except Rejection α :=
  match ofName? (String.ofList value.content) with
  | some choice => .ok choice
  | none => .error .invalidValue

/-- The settings with that of one more option. -/
def set (o : Options) (key : Key) (value : Argument) : Except Rejection Options :=
  match key with
  | .color => do pure { o with color := ← choiceValue ColorChoice.ofName? value }
  | .config =>
    if value.content = [] then .error .invalidValue
    else .ok { o with config := some (String.ofList value.content) }
  | .checkpoint => do pure { o with checkpoint := some (← numberValue value) }
  | .action => do pure { o with actions := o.actions ++ [← textValue value] }
  | .archive => do pure { o with archive := some (← textValue value) }
  | .blocks => do pure { o with blocks := some (← numberValue value) }
  | .recordSize => do pure { o with recordSize := some (← numberValue value) }
  | .mode => do pure { o with mode := some (← choiceValue Mode.ofName? value) }
  | .delay => do pure { o with delay := some (← numberValue value) }
  | .verbose => .ok { o with verbose := true }
  | .help => .error (.displayHelp false)
  | .fullHelp => .error (.displayHelp true)
  | .version => .error .displayVersion

/-- The settings with those of an option that is given without a value. -/
def setBare (o : Options) (key : Key) : Except Rejection Options :=
  if key.isValueOptional then .ok { o with checkpoint := some impliedInterval }
  else if key.takesValue then .error .invalidValue
  else o.set key ⟨[], true⟩

/-- How far the reading has come. -/
structure Reading where
  options : Options := {}
  /-- The options that have taken effect. -/
  seen : List Key := []
  /-- An option that waits for its value, or has got one that has not taken effect. -/
  pending : Option (Key × Option Argument) := none

namespace Reading

/-- Lets an option take effect. A missing value is noticed first, then a repetition. -/
def apply (r : Reading) (key : Key) (value : Option Argument) : Except Rejection Reading :=
  if value.isNone ∧ key.takesValue ∧ key.isValueOptional = false then .error .invalidValue
  else if r.seen.contains key ∧ key.isRepeatable = false then .error .argumentConflict
  else do
    let options ← match value with
      | some value => r.options.set key value
      | none => r.options.setBare key
    pure { options, seen := key :: r.seen }

/-- Lets the option that is pending take effect. -/
def settle (r : Reading) : Except Rejection Reading :=
  match r.pending with
  | some (key, value) => { r with pending := none }.apply key value
  | none => .ok r

/-- Lets the pending option take effect, and then another. -/
def react (r : Reading) (key : Key) (value : Option Argument) : Except Rejection Reading := do
  (← r.settle).apply key value

/-- Reads an option and the value attached to it, if one is. -/
def option (r : Reading) (key : Key) (attached : Option Argument) : Except Rejection Reading :=
  match attached with
  | some value => r.react key (some value)
  | none =>
    if key.takesValue = false ∨ key.isValueOptional then r.react key none
    else do pure { ← r.settle with pending := some (key, none) }

/-- Reads an option with a long name: a name, and a value after an equals sign. -/
def long (r : Reading) (body : Argument) : Except Rejection Reading :=
  let name := body.content.takeWhile (· != '=')
  match Key.ofLong? name, body.content.drop name.length with
  | none, _ => .error .unknownArgument
  | some key, [] => r.option key none
  | some key, _ :: value =>
    if key.takesValue then r.option key (some { body with content := value })
    else .error .tooManyValues

/-- Reads options with short names. What follows one that takes a value is its value. -/
def short (isText : Bool) : List Char → Reading → Except Rejection Reading
  | [], r => .ok r
  | c :: rest, r =>
    match Key.ofShort? c with
    | none => .error .unknownArgument
    | some key =>
      if key.takesValue then
        match rest with
        | [] => r.option key none
        | '=' :: value => r.option key (some ⟨value, isText⟩)
        | value => r.option key (some ⟨value, isText⟩)
      else do short isText rest (← r.option key none)

/-- Reads an argument that is no option: the value that an option waits for. -/
def plain (r : Reading) (argument : Argument) : Except Rejection Reading :=
  match r.pending with
  | some (key, none) => .ok { r with pending := some (key, some argument) }
  | _ => .error .unknownArgument

def argument (r : Reading) (a : Argument) : Except Rejection Reading :=
  match a.content with
  | '-' :: '-' :: body => r.long { a with content := body }
  | '-' :: c :: rest => short a.isText (c :: rest) r
  | _ => r.plain a

end Reading

/-- Reads arguments. Two dashes end the options, and nothing may follow them. -/
def readAll : Reading → List Argument → Except Rejection Options
  | r, [] => do pure (← r.settle).options
  | r, a :: rest =>
    if a.content = ['-', '-'] then
      if rest = [] then do pure (← r.settle).options else .error .unknownArgument
    else do readAll (← r.argument a) rest

/-- The options of a command line. -/
def parse (arguments : List Argument) : Except Rejection Options := readAll {} arguments

@[simp] theorem parse_nil : parse [] = .ok {} := rfl

end ProgressActions.Options
