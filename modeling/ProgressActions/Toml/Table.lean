import ProgressActions.Toml.Node

/-!
# Growth of tables

Keys are added to tables that a path leads to. On the way, missing tables are made, and those that exist
are entered if their form allows it. Nothing is ever defined twice.
-/

namespace ProgressActions.Toml

/-- How a path is followed: the form of tables that are made on the way, and which forms are entered. -/
structure Descent where
  made : Form
  enters : Form → Bool

namespace Descent

/-- The way of a header, which enters every table that has no braces. -/
def header : Descent where
  made := .implied
  enters
    | .inline => false
    | .inlineDotted => false
    | _ => true

/-- The way of a dotted key, which does not enter tables with a header of their own. -/
def dotted : Descent where
  made := .dotted
  enters
    | .implied => true
    | .dotted => true
    | _ => false

/-- The way of a dotted key between braces. -/
def braces : Descent where
  made := .inlineDotted
  enters
    | .inlineDotted => true
    | _ => false

end Descent

/-- A change of a table, which knows the form of the table and may refuse. -/
abbrev Change := Form → Entries → Option Entries

/-- Makes a change in the table that a path leads to. Of tables in a row, the last is entered. -/
def changeAt (way : Descent) (change : Change) : (path : List String) → Change
  | [], form, entries => change form entries
  | key :: path, _, entries =>
    match entries.get? key with
    | none =>
      (changeAt way change path way.made []).map fun inner ↦
        entries.set key (.table way.made inner)
    | some (.table form inner) =>
      if way.enters form then
        (changeAt way change path form inner).map fun next ↦ entries.set key (.table form next)
      else none
    | some (.tables items) =>
      match items.getLast? with
      | some last =>
        (changeAt way change path .header last).map fun next ↦
          entries.set key (.tables (items.dropLast ++ [next]))
      | none => none
    | some _ => none

/-- Adds an entry whose key is new. -/
def addEntry (key : String) (node : Node) (entries : Entries) : Option Entries :=
  match entries.get? key with
  | none => some (entries ++ [(key, node)])
  | some _ => none

/--
Adds an entry under a dotted key. Such a key ends in a table that is made of dotted keys alone, and a
plain key in one that is not.
-/
def addDotted (way : Descent) (path : List String) (key : String) (node : Node) : Change :=
  changeAt way (fun form entries ↦
    if (form == .dotted || form == .inlineDotted) == path.isEmpty then none
    else addEntry key node entries) path

def inlineTable? (entries : List (List String × String × Node)) : Option Node :=
  (entries.foldlM (fun table (path, key, node) ↦ addDotted .braces path key node .inline table)
    []).map (.table .inline)

/-- Opens a table under a header. One that was only implied so far moves to the end. -/
def openTable (key : String) : Change := fun _ entries ↦
  match entries.get? key with
  | none => some (entries ++ [(key, .table .header [])])
  | some (.table .implied inner) => some (entries.erase key ++ [(key, .table .header inner)])
  | some _ => none

def openNextTable (key : String) : Change := fun _ entries ↦
  match entries.get? key with
  | none => some (entries ++ [(key, .tables [[]])])
  | some (.tables items) => some (entries.set key (.tables (items ++ [[]])))
  | some _ => none

end ProgressActions.Toml
