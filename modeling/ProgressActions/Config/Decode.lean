import ProgressActions.Config
import ProgressActions.Toml.Document

/-!
# Settings of a document

A document sets settings in two tables. Keys that are not known are skipped and reported by their path.
A table may also be given as an array with the values of its settings in order.
-/

namespace ProgressActions.Config

open Toml

/-- A change of settings by a node, together with the paths of the keys in it that are not known. -/
abbrev Setter := Node → Config → Option (Config × List String)

/-- A setting: its key, and how a node changes it. -/
abbrev Setting := String × Setter

/-- A setting that a value of one kind changes. -/
def setting {α : Type} (key : String) (read? : Node → Option α) (change : α → Config → Config) :
    Setting :=
  (key, fun node c ↦ (read? node).map fun value ↦ (change value c, []))

/-- The number of a node that is a count. -/
def count? : Node → Option Nat
  | .integer n => if 0 ≤ n then some n.toNat else none
  | _ => none

def text? : Node → Option String
  | .text content => some content
  | _ => none

def texts? : Node → Option (List String)
  | .array items => items.mapM text?
  | _ => none

/-- Whether a node holds nothing. -/
def isEmptyNode : Node → Bool
  | .table _ [] => true
  | .array [] => true
  | _ => false

/--
The mode of a node: its name, or a table with an empty entry under its name. Between braces there may
be no other entry, elsewhere only the first entry counts.
-/
def mode? : Node → Option Mode
  | .text name => Mode.ofName? name
  | .table form ((name, node) :: rest) =>
    let isInline := form == .inline || form == .inlineDotted
    if isEmptyNode node ∧ (isInline = false ∨ rest.isEmpty) then Mode.ofName? name else none
  | _ => none

/-- The settings of the table on checkpoints. -/
def checkpointSettings : List Setting :=
  [setting "interval" count? fun n c ↦ { c with interval := some n },
   setting "actions" texts? fun specs c ↦ { c with actions := specs }]

/-- The settings of the table on the archive. -/
def archiveSettings : List Setting :=
  [setting "archive" text? fun name c ↦ { c with archive := name },
   setting "blocks" count? fun n c ↦ { c with blocks := n },
   setting "record_size" count? fun n c ↦ { c with recordSize := n },
   setting "mode" mode? fun mode c ↦ { c with mode },
   setting "delay_ms" count? fun n c ↦ { c with delay := n }]

/-- Settings from the entries of a table. -/
def setEntries (settings : List Setting) : Entries → Config → Option (Config × List String)
  | [], c => some (c, [])
  | (key, node) :: rest, c => do
    let (next, unknown) ←
      match settings.lookup key with
      | some set => (set node c).map fun (c, keys) ↦ (c, keys.map fun inner ↦ key ++ "." ++ inner)
      | none => some (c, [key])
    let (last, more) ← setEntries settings rest next
    pure (last, unknown ++ more)

/-- Settings from values in order. Values beyond the last setting do not count. -/
def setInOrder : List Setting → List Node → Config → Option Config
  | (_, set) :: settings, node :: nodes, c => do setInOrder settings nodes (← set node c).1
  | _, _, c => some c

/-- The key by which a point of time passes for a table. -/
def momentKey : String := "$__toml_private_datetime"

/-- Settings from the node of a table. -/
def setTable (settings : List Setting) : Setter
  | .table _ entries, c => setEntries settings entries c
  | .array items, c => (setInOrder settings items c).map (·, [])
  | .tables items, c => (setInOrder settings (items.map (.table .header ·)) c).map (·, [])
  | .moment, c => some (c, [momentKey])
  | _, _ => none

def documentSettings : List Setting :=
  [("checkpoint", setTable checkpointSettings), ("simulate", setTable archiveSettings)]

/-- The settings of a document, and the paths of its keys that are not known. -/
def ofText? (text : List Char) : Option (Config × List String) := do
  setEntries documentSettings (← Toml.parse text) {}

@[simp] theorem setEntries_nil (settings : List Setting) (c : Config) :
    setEntries settings [] c = some (c, []) := rfl

/-- A key that is not known changes no setting. -/
theorem setEntries_unknown {settings : List Setting} {key : String} (node : Node) (rest : Entries)
    (c : Config) (h : settings.lookup key = none) :
    setEntries settings ((key, node) :: rest) c =
      (setEntries settings rest c).map fun (last, more) ↦ (last, key :: more) := by
  simp only [setEntries, h]
  cases hrest : setEntries settings rest c <;> simp [hrest]

end ProgressActions.Config
