import ProgressActions.Toml.Value

/-!
# TOML documents

A document is a row of statements, one on each line: headers open tables, and entries go into the table
that was opened last.
-/

namespace ProgressActions.Toml

inductive Statement where
  | header (path : List String) (name : String)
  /-- A header in double brackets. -/
  | rowHeader (path : List String) (name : String)
  | entry (path : List String) (name : String) (node : Node)
  deriving Repr

def headerStatement (make : List String → String → Statement) (brackets : Nat) (text : List Char) :
    Option (Statement × List Char) := do
  let ((path, name), after) ← key text
  let closed ← if brackets = 2 then (afterChar? ']' after).bind (afterChar? ']') else afterChar? ']' after
  pure (make path name, ← afterLine? closed)

def statement : Reader Statement
  | '[' :: '[' :: rest => headerStatement .rowHeader 2 rest
  | '[' :: rest => headerStatement .header 1 rest
  | text => do
    let ((path, name), afterKey) ← key text
    let afterEquals ← afterChar? '=' afterKey
    let (node, after) ← anyValue (afterBlanks afterEquals)
    pure (.entry path name node, ← afterLine? after)

/-- The statements of a text, line by line. -/
def statements : (limit : Nat) → List Char → Option (List Statement)
  | 0, _ => none
  | limit + 1, text =>
    match afterBlanks text with
    | [] => some []
    | '\n' :: rest => statements limit rest
    | '#' :: rest => do statements limit (← afterLine? ('#' :: rest))
    | begun => do
      let (first, rest) ← statement begun
      pure (first :: (← statements limit rest))

/-- A document under construction: the root table, and the path of the table that was opened last. -/
structure Draft where
  root : Entries := []
  path : List String := []

namespace Draft

def add (d : Draft) : Statement → Option Draft
  | .header path name => do
    let root ← changeAt .header (openTable name) path .header d.root
    pure { root, path := path ++ [name] }
  | .rowHeader path name => do
    let root ← changeAt .header (openNextTable name) path .header d.root
    pure { root, path := path ++ [name] }
  | .entry path name node => do
    let root ← changeAt .header (addDotted .dotted path name node) d.path .header d.root
    pure { d with root }

end Draft

/-- The root table of a document, if the text is one. A byte order mark may precede it. -/
def parse (text : List Char) : Option Entries := do
  let unmarked := match text with
    | '\ufeff' :: rest => rest
    | _ => text
  let all ← statements (text.length + 1) (unifyLineFeeds unmarked)
  let draft ← all.foldlM Draft.add {}
  pure draft.root

end ProgressActions.Toml
