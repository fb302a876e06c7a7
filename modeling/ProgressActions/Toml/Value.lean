import ProgressActions.Toml.Scalar
import ProgressActions.Toml.Table

/-!
# Values and keys of TOML documents

A value is a scalar, an array in brackets or a table between braces. Arrays may run over several lines
and may end with a comma, tables between braces may not. Nesting is limited.
-/

namespace ProgressActions.Toml

/-- A limit on the depth of nesting, and on the parts of a key: both stay below it. -/
def depthLimit : Nat := 80

/-- The parts of a key after its first, each after a dot. Blanks may surround the dots. -/
def keyParts : (limit : Nat) → List Char → Option (List String × List Char)
  | 0, _ => none
  | limit + 1, text => do
    let (part, after) ← simpleKey (afterBlanks text)
    match afterBlanks after with
    | '.' :: rest =>
      let (parts, last) ← keyParts limit rest
      pure (part :: parts, last)
    | rest => pure ([part], rest)

/-- A key: the path of tables to it, and its last part. -/
def key (text : List Char) : Option ((List String × String) × List Char) := do
  let (parts, after) ← keyParts (depthLimit - 1) text
  let last ← parts.getLast?
  pure ((parts.dropLast, last), after)

mutual

/-- A value, with the depth that is left for nesting. -/
def value : (limit depth : Nat) → List Char → Option (Node × List Char)
  | 0, _, _ => none
  | _, _, [] => none
  | limit + 1, depth, c :: rest =>
    if c = '"' ∨ c = '\'' then
      (string (c :: rest)).map fun (text, after) ↦ (.text (String.ofList text), after)
    else if c = '[' then
      match depth with
      | 0 => none
      | depth + 1 => (arrayItems limit depth rest).map fun (items, after) ↦ (.array items, after)
    else if c = '\x7b' then
      match depth with
      | 0 => none
      | depth + 1 => do
        let (entries, after) ←
          match afterBlanks rest with
          | '\x7d' :: after => pure ([], after)
          | _ => inlineEntries limit depth rest
        pure (← inlineTable? entries, after)
    else if c.isDigit ∨ c = '+' ∨ c = '-' then numberOrMoment (c :: rest)
    else word (c :: rest)

/-- The items of an array up to its closing bracket. -/
def arrayItems : (limit depth : Nat) → List Char → Option (List Node × List Char)
  | 0, _, _ => none
  | limit + 1, depth, text =>
    match afterGaps text with
    | ']' :: after => some ([], after)
    | begun => do
      let (item, afterItem) ← value limit depth begun
      match afterGaps afterItem with
      | ']' :: after => pure ([item], after)
      | ',' :: more =>
        let (items, after) ← arrayItems limit depth more
        pure (item :: items, after)
      | _ => none

/-- The entries of a table up to its closing brace, of which there is at least one. -/
def inlineEntries : (limit depth : Nat) → List Char →
    Option (List (List String × String × Node) × List Char)
  | 0, _, _ => none
  | limit + 1, depth, text => do
    let ((path, name), afterKey) ← key text
    let afterEquals ← afterChar? '=' afterKey
    let (node, afterNode) ← value limit depth (afterBlanks afterEquals)
    match afterBlanks afterNode with
    | '\x7d' :: after => pure ([(path, name, node)], after)
    | ',' :: more =>
      let (entries, after) ← inlineEntries limit depth more
      pure ((path, name, node) :: entries, after)
    | _ => none

end

/-- A value. No text is long enough to use up the steps that are allowed for it. -/
def anyValue (text : List Char) : Option (Node × List Char) :=
  value (2 * text.length + 2) (depthLimit - 1) text

end ProgressActions.Toml
