/-!
# Nodes of TOML documents

The values of a document and its tables. A table remembers how it came to be, because that decides
what may still be added to it. Of floats and points of time only the kind is kept.
-/

namespace ProgressActions.Toml

inductive Form where
  /-- By a header of its own; the root counts as such. -/
  | header
  /-- By the header of a table inside of it. -/
  | implied
  /-- By a dotted key. -/
  | dotted
  /-- By braces. -/
  | inline
  /-- By a dotted key between braces. -/
  | inlineDotted
  deriving DecidableEq, Repr

inductive Node where
  | text (content : String)
  | integer (value : Int)
  | float
  | boolean (value : Bool)
  | moment
  | array (items : List Node)
  | table (form : Form) (entries : List (String × Node))
  /-- Tables that share a header in double brackets. -/
  | tables (items : List (List (String × Node)))
  deriving Repr

/-- The entries of a table, in order. -/
abbrev Entries := List (String × Node)

namespace Entries

def get? (e : Entries) (key : String) : Option Node := e.lookup key

/-- Another node under a key, which keeps its place; a new key goes to the end. -/
def set : Entries → (key : String) → Node → Entries
  | [], key, node => [(key, node)]
  | (name, old) :: rest, key, node =>
    if name = key then (name, node) :: rest else (name, old) :: set rest key node

def erase (e : Entries) (key : String) : Entries := e.filter (·.1 != key)

theorem get?_set_self (e : Entries) (key : String) (node : Node) :
    (e.set key node).get? key = some node := by
  induction e with
  | nil => simp [set, get?]
  | cons entry rest ih =>
    obtain ⟨name, old⟩ := entry
    unfold set
    split
    · rename_i h
      simp [get?, h]
    · rename_i h
      have hne : (key == name) = false := by simpa using fun hkey ↦ h hkey.symm
      simpa [get?, List.lookup_cons, hne] using ih

end Entries

end ProgressActions.Toml
